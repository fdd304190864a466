import ParcelPricing.Decimal.Reader
import ParcelPricing.Settings.Setting
import ParcelPricing.Text.CodePoint

namespace ParcelPricing.Yaml
open Decimal Text

inductive Scalar where
  | null
  | truth (value : Bool)
  | whole (value : Int)
  | real (text : List Char)
  | string (text : List Char)
deriving DecidableEq

namespace Scalar

/-- A whole number of 64 bits in another base than ten. -/
def readInBase? (base : Nat) (text : List Char) : Option Int := do
  let (negative, digits) := splitSign text
  let values ← digits.mapM hexValue?
  guard (digits ≠ [] ∧ values.all (· < base))
  let n : Nat := values.foldl (fun n v => base * n + v) 0
  let value : Int := if negative then -n else n
  if isWord value then return value else none

def readInteger? : List Char → Option Int
  | '0' :: 'x' :: text => readInBase? 16 text
  | '0' :: 'o' :: text => readInBase? 8 text
  | text => readWhole? text

/-- Spellings of numbers without digits. -/
def specialReals : List (List Char) :=
  [".inf", ".Inf", ".INF", "+.inf", "+.Inf", "+.INF", "-.inf", "-.Inf", "-.INF", ".nan", ".NaN",
    ".NAN"].map String.toList

def isReal (text : List Char) : Bool :=
  specialReals.contains text || text.any Char.isDigit && (readDouble? text).isSome

def truthOf? (text : List Char) : Option Bool :=
  if ["true", "True", "TRUE"].contains (String.ofList text) then some true
  else if ["false", "False", "FALSE"].contains (String.ofList text) then some false
  else none

def ofPlain (text : List Char) : Scalar :=
  match readInteger? text, truthOf? text with
  | some n, _ => whole n
  | none, some value => truth value
  | none, none =>
    if ["", "~", "null"].contains (String.ofList text) then null
    else if isReal text then real text
    else string text

def coreTags : List Char := "tag:yaml.org,2002:".toList

/-- A tag of the core says what a text without quotes is. One that is not of that kind is nothing.
-/
def ofTagged (handle suffix text : List Char) : Scalar :=
  if handle ≠ coreTags then string text
  else if suffix = "bool".toList then ((truthOf? text).map truth).getD null
  else if suffix = "int".toList then ((readWhole? text).map whole).getD null
  else if suffix = "float".toList then if isReal text then real text else null
  else if suffix = "null".toList then null
  else string text

/-- The value of a setting. A number without digits has none. -/
def setting? : Scalar → Option Setting
  | null => some .absent
  | truth value => some (.truth value)
  | whole value => some (.whole value)
  | real text => (readDouble? text).map .decimal
  | string text => some (.text (.ofList text))

/-- The key that a scalar is in a table. -/
def key? : Scalar → Option String
  | null => none
  | truth value => some (if value then "true" else "false")
  | whole value => some (.ofList (signedDecimal value))
  | real text | string text => some (.ofList text)

end Scalar

end ParcelPricing.Yaml
