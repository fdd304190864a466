import ParcelPricing.Decimal.Reader
import ParcelPricing.Json.Reader
import ParcelPricing.Settings.Setting

namespace ParcelPricing.Json
open Decimal Text

/-- The double nearest to a number, if it is finite. -/
def finite? (text : List Char) : Option Setting := do
  let x ← readDouble? text
  guard x.isFinite
  return .decimal x

/-- Zero with a minus is no whole number. -/
def numberSetting? (text : List Char) : Option Setting :=
  let n := value text
  match readWhole? text with
  | some n => if n = 0 ∧ text.head? = some '-' then finite? text else some (.whole n)
  | none =>
    if text.all Char.isDigit ∧ n ≤ 0xFFFFFFFFFFFFFFFF then some (.whole n) else finite? text

/-- Arrays and objects may lie in one another up to one level less. -/
def mostLevels : Nat := 128

mutual

/-- The meaning of a document with so many levels left. -/
def setting? : Nat → Json → Option Setting
  | _, null => some .absent
  | _, bool value => some (.truth value)
  | _, number text => numberSetting? text
  | _, string value => some (.text (.ofList value))
  | levels, array items =>
    if levels ≤ 1 then none else (settings? (levels - 1) items).map .list
  | levels, object fields =>
    if levels ≤ 1 then none else (fieldSettings? (levels - 1) [] fields).map .table

def settings? : Nat → List Json → Option (List Setting)
  | _, [] => some []
  | levels, item :: rest => do
    let item ← setting? levels item
    return item :: (← settings? levels rest)

/-- A later field replaces an earlier one. -/
def fieldSettings? : Nat → Fields → List (List Char × Json) → Option Fields
  | _, read, [] => some read
  | levels, read, (key, value) :: rest => do
    fieldSettings? levels (read.put (.ofList key) (← setting? levels value)) rest

end

/-- The settings of a document, which must be an object. -/
def readSettings? (text : List Char) : Option Fields := do
  (← setting? mostLevels (← read? text)).fields?

end ParcelPricing.Json
