import ParcelPricing.Decimal.Reader
import ParcelPricing.Report.AmountText
import ParcelPricing.Settings.Setting

/-! The meaning of single settings. -/
namespace ParcelPricing.Setting
open Decimal

def asText? : Setting → Option String
  | text value => some value
  | truth value => some (if value then "true" else "false")
  | whole value => some (.ofList (Text.signedDecimal value))
  | decimal value => some (.ofList (Report.plainText value))
  | absent | list _ | table _ => none

def yesWords : List (List Char) := ["true".toList, "on".toList, "yes".toList]

def noWords : List (List Char) := ["false".toList, "off".toList, "no".toList]

def asAmount? : Setting → Option Float
  | truth value => some (if value then 1.0 else 0.0)
  | whole value => some (Float.ofInt value)
  | decimal value => some value
  | text value =>
    if yesWords.contains (lowered value.toList) then some 1.0
    else if noWords.contains (lowered value.toList) then some 0.0
    else readDouble? value.toList
  | absent | list _ | table _ => none

def asList? {α : Type} (item : Setting → Option α) : Setting → Option (List α)
  | list items => items.mapM item
  | _ => none

/-- The fields of a record with these keys. What is too much in a list is left out. -/
def asRecord? (keys : List String) : Setting → Option Fields
  | table fields => some fields
  | list items => some (keys.zip items)
  | _ => none

end ParcelPricing.Setting

namespace ParcelPricing.Fields

/-- The meaning of a field, or a standard value if it is not set. -/
def read? {α : Type} (fields : Fields) (key : String) (meaning : Setting → Option α)
    (standard : α) : Option α :=
  match fields.get? key with
  | some value => meaning value
  | none => some standard

end ParcelPricing.Fields
