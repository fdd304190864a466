import ParcelPricing.Ini.Document
import ParcelPricing.Json.Setting
import ParcelPricing.Json5.Document
import ParcelPricing.Ron.Document
import ParcelPricing.Toml.Document
import ParcelPricing.Yaml.Document

namespace ParcelPricing

inductive SettingsFormat where
  | toml
  | json
  | yaml
  | ini
  | ron
  | json5
deriving DecidableEq

namespace SettingsFormat

def endings : List (String × SettingsFormat) :=
  [(".toml", toml), (".json", json), (".yaml", yaml), (".yml", yaml), (".ini", ini), (".ron", ron),
    (".json5", json5)]

/-- The settings that a text holds, none if it cannot be read or its root is no table. -/
def read? (format : SettingsFormat) (text : List Char) : Option Fields :=
  match format with
  | toml => Toml.read? text
  | json => Json.readSettings? text
  | yaml => Yaml.read? text
  | ini => Ini.read? text
  | ron => Ron.read? text
  | json5 => Json5.read? text

end SettingsFormat

end ParcelPricing
