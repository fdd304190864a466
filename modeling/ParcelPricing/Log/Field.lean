import ParcelPricing.Log.Pattern
import ParcelPricing.Report.AmountText
import ParcelPricing.Decimal.Reader

namespace ParcelPricing
open Decimal

/-- An absent value comes before any other. -/
def optionOrder {α : Type} (order : α → α → Ordering) : Option α → Option α → Ordering
  | none, none => .eq
  | none, some _ => .lt
  | some _, none => .gt
  | some a, some b => order a b

def textOrder (a b : List Char) : Ordering := compareOfLessAndEq a b

inductive LogValue where
  | truth (value : Bool)
  | decimal (value : Float)
  | unsigned (value : Nat)
  | signed (value : Int)
  | pattern (text : List Char)

namespace LogValue

/-- Whole numbers without a minus have 64 bits for their digits. -/
def readUnsigned? (text : List Char) : Option Nat :=
  let digits := if text.head? = some '+' then text.tail else text
  if digits ≠ [] ∧ digits.all Char.isDigit ∧ Text.value digits ≤ 0xFFFFFFFFFFFFFFFF then
    some (Text.value digits)
  else none

def read? (text : List Char) : Option LogValue :=
  if text = "true".toList then some (truth true)
  else if text = "false".toList then some (truth false)
  else
    match readUnsigned? text, readWhole? text, readDouble? text with
    | some n, _, _ => some (unsigned n)
    | none, some n, _ => some (signed n)
    | none, none, some x => some (decimal x)
    | none, none, none => if LogPattern.isPattern text then some (pattern text) else none

def chars : LogValue → List Char
  | truth value => if value then "true".toList else "false".toList
  | decimal value => Report.plainText value
  | unsigned value => Text.decimal value
  | signed value => Text.signedDecimal value
  | pattern text => text

/-- Kinds of values in order; what is no number is a kind of its own. -/
def rank : LogValue → Nat
  | truth _ => 0
  | decimal value => if value.isNaN then 2 else 1
  | unsigned _ => 3
  | signed _ => 4
  | pattern _ => 5

/-- The order inside one kind. -/
def orderInKind : LogValue → LogValue → Ordering
  | truth a, truth b => if a = b then .eq else if b then .lt else .gt
  | decimal a, decimal b => if a < b then .lt else if b < a then .gt else .eq
  | unsigned a, unsigned b => compareOfLessAndEq a b
  | signed a, signed b => compareOfLessAndEq a b
  | pattern a, pattern b => textOrder a b
  | _, _ => .eq

def order (a b : LogValue) : Ordering :=
  (compareOfLessAndEq a.rank b.rank).then (orderInKind a b)

end LogValue

structure LogField where
  name : List Char
  value : Option LogValue

namespace LogField

/-- A name, and a value after an equals sign. What follows another equals sign does not count. -/
def read? (text : List Char) : Option LogField :=
  match text.splitOn '=' with
  | name :: value :: _ => (LogValue.read? value).map fun value => ⟨name, some value⟩
  | [name] => some ⟨name, none⟩
  | [] => none

def chars (f : LogField) : List Char :=
  match f.value with
  | some value => f.name ++ '=' :: value.chars
  | none => f.name

/-- Fields with a value come after those without. -/
def order (f g : LogField) : Ordering :=
  (optionOrder (fun _ _ => .eq) f.value g.value).then <|
    (textOrder f.name g.name).then (optionOrder LogValue.order f.value g.value)

end LogField

end ParcelPricing
