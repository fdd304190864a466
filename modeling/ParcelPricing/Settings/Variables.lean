import ParcelPricing.Decimal.Reader
import ParcelPricing.Settings.Setting

namespace ParcelPricing

/-- Environment variables by name. -/
abbrev Variables := List (String × String)

namespace Setting
open Decimal

/-- The text of a variable as a truth value, a whole number or a number, if it reads as one. -/
def ofVariableText (text : String) : Setting :=
  let chars := text.toList
  if lowered chars = "true".toList then truth true
  else if lowered chars = "false".toList then truth false
  else
    match readWhole? chars, readDouble? chars with
    | some n, _ => whole n
    | none, some x => decimal x
    | none, none => .text text

def pointed : List Char → List Char
  | '_' :: '_' :: rest => '.' :: pointed rest
  | c :: rest => c :: pointed rest
  | [] => []

def keyMark : List Char := "shipment_".toList

/-- A letter of a name in lower case. The Kelvin sign is the one letter outside ASCII whose lower
case is inside. -/
def nameLetter (c : Char) : Char := if c = '\u212A' then 'k' else c.toLower

def keyOfVariable? (name : String) : Option String :=
  let name := name.toList.map nameLetter
  if keyMark.isPrefixOf name then some (.ofList (pointed (name.drop keyMark.length))) else none

def ofVariables (env : Variables) : Fields :=
  env.filterMap fun v => (keyOfVariable? v.1).map (·, ofVariableText v.2)

end Setting

end ParcelPricing
