import ParcelPricing.Log.Filter
import ParcelPricing.Settings.Variables

namespace ParcelPricing
open Decimal

structure LogSettings where
  level : String
  format : String
deriving DecidableEq

def LogSettings.standard : LogSettings where
  level := "warn"
  format := "pretty"

def LogSettings.isJson (s : LogSettings) : Bool := lowered s.format.toList = "json".toList

/-- The filter of the first text that can be read, or else for warnings. A text that cuts a
character leaves no filter at all. -/
def LogFilter.firstOf : List String → Option LogFilter
  | [] => some (.ofLevel .warn)
  | text :: rest =>
    match LogFilter.read text.toList with
    | .ok filter => some filter
    | .error .unreadable => firstOf rest
    | .error .cutCharacter => none

/-- The filter of the variable that overrides the settings, of the settings, or for warnings. -/
def LogSettings.filter? (s : LogSettings) (env : Variables) : Option LogFilter :=
  LogFilter.firstOf ((env.lookup "RUST_LOG").toList ++ [s.level])

end ParcelPricing
