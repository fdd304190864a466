import ParcelPricing.Files
import ParcelPricing.Report.Fault
import ParcelPricing.Settings.Basic
import ParcelPricing.Settings.Format
import ParcelPricing.Settings.KeyPath
import ParcelPricing.Text.Utf8

/-! Settings from all their sources, each over the ones before it. -/
namespace ParcelPricing.Settings

def defaultDirectory (env : Variables) : String :=
  (env.lookup "CONFIG_DIR").getD "config"

def environmentOf (env : Variables) : String :=
  (env.lookup "SHIPMENT_ENV").getD "development"

def fileNames (environment service : String) : List String :=
  ["default.toml", environment ++ ".toml", service ++ ".toml"]

/-- A name in a directory. An absolute name is in none. -/
def within (directory name : String) : String :=
  if name.toList.head? = some '/' ∨ directory = "" then name
  else if directory.toList.getLast? = some '/' then directory ++ name
  else directory ++ "/" ++ name

/-- A file whose name is nothing but the ending is not one of settings. -/
def isNameless (path : String) : Bool := (path.toList.splitOn '/').getLast? = some ".toml".toList

/-- Where the content of a file may stand if it is not at its own path. -/
def furtherPaths (path : String) : List (String × SettingsFormat) :=
  SettingsFormat.endings.map fun ending => (path ++ ending.1, ending.2)

/-- What is there of a file, and its format. -/
def content? (read : FileReader) (path : String) : Option (SettingsFormat × ByteArray) :=
  match read path with
  | .ok content => if isNameless path then none else some (.toml, content)
  | .error _ =>
    (furtherPaths path).findSome? fun place => (read place.1).toOption.map (place.2, ·)

def byteOrderMark : List UInt8 := [0xEF, 0xBB, 0xBF]

def withoutMark (content : ByteArray) : ByteArray :=
  if (content.extract 0 3).toList = byteOrderMark then content.extract 3 content.size else content

/-- The settings of a file, none if it is missing. What is not UTF-8 in it is replaced. -/
def readFile (read : FileReader) (path : String) : Except SettingsFault Fields :=
  match content? read path with
  | none => .ok []
  | some (format, content) =>
    match format.read? (Text.decodeUtf8 (withoutMark content)) with
    | some fields => .ok fields
    | none => .error (.loading ("cannot read " ++ path))

/-- Sources in order, over one another. -/
def overlaid (sources : List Fields) : Setting := sources.foldl Setting.addSource (.table [])

def givenNames (environment service : String) : Fields :=
  [("service_name", .text service), ("environment", .text environment)]

def load (read : FileReader) (env : Variables) (directory service : String) :
    Except SettingsFault Settings := do
  let environment := environmentOf env
  let files ← (fileNames environment service).mapM fun name => readFile read (within directory name)
  let sources := [givenNames environment service] ++ files ++ [Setting.ofVariables env]
  match ofSetting? (overlaid sources) with
  | some settings => return settings
  | none => throw (.loading "a value is of the wrong kind")

/-- Every path that `load` may read. -/
def paths (env : Variables) (directory service : String) : List String :=
  (fileNames (environmentOf env) service).flatMap fun name =>
    let path := within directory name
    path :: (furtherPaths path).map Prod.fst

end ParcelPricing.Settings
