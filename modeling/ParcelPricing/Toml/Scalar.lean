import ParcelPricing.Decimal.Reader
import ParcelPricing.Settings.Setting
import ParcelPricing.Text.CodePoint
import ParcelPricing.Toml.Moment

namespace ParcelPricing.Toml
open Decimal Text

/-- Digits, with single underscores between them allowed. -/
def ungrouped? (isDigit : Char → Bool) (text : List Char) : Option (List Char) :=
  let groups := text.splitOn '_'
  if groups.all fun group => group ≠ [] && group.all isDigit then some groups.flatten else none

/-- A whole part has no needless zero in front. -/
def wholePart? (text : List Char) : Option (List Char) := do
  let digits ← ungrouped? Char.isDigit text
  guard (digits.head? = some '0' → digits.length = 1)
  return digits

def boundedWhole? (n : Int) : Option Setting := if isWord n then some (.whole n) else none

def inBase? (base : Nat) (text : List Char) : Option Setting := do
  let digits ← ungrouped? (fun c => (hexValue? c).any (· < base)) text
  let values ← digits.mapM hexValue?
  boundedWhole? (Nat.cast (values.foldl (fun n v => base * n + v) 0))

/-- A number with a fraction, an exponent or both, which must be finite. -/
def float? (negative : Bool) (text : List Char) : Option Setting := do
  let mantissa := text.takeWhile fun c => c ≠ 'e' && c ≠ 'E'
  let (whole, fraction) ← match mantissa.splitOn '.' with
    | [whole] => pure (← wholePart? whole, [])
    | [whole, fraction] => pure (← wholePart? whole, ← ungrouped? Char.isDigit fraction)
    | _ => none
  let exponent ← match text.drop mantissa.length with
    | [] => pure 0
    | _ :: rest =>
      let (minus, digits) := splitSign rest
      let digits ← ungrouped? Char.isDigit digits
      pure (if minus then -(value digits : Int) else value digits)
  let x := nearest (value (whole ++ fraction)) (exponent - fraction.length)
  guard (x < infinity)
  return .decimal (if negative then -x else x)

def number? (text : List Char) : Option Setting :=
  let (negative, unsigned) := splitSign text
  if unsigned = "inf".toList then some (.decimal (if negative then -infinity else infinity))
  else if unsigned = "nan".toList then some (.decimal (0.0 / 0.0))
  else
    match text with
    | '0' :: 'x' :: digits => inBase? 16 digits
    | '0' :: 'o' :: digits => inBase? 8 digits
    | '0' :: 'b' :: digits => inBase? 2 digits
    | _ =>
      match wholePart? unsigned with
      | some digits => boundedWhole? (if negative then -(value digits : Int) else value digits)
      | none => float? negative unsigned

def isWordChar (c : Char) : Bool := c.isAlphanum || c = '_' || c = '+' || c = '-' || c = '.'

def word? (word : List Char) : Option Setting :=
  if word = "true".toList then some (.truth true)
  else if word = "false".toList then some (.truth false)
  else number? word

/-- A value without quotes. -/
def readPlain (text : List Char) : Option (Setting × List Char) :=
  match readMoment text with
  | some (moment, rest) => some (.text (.ofList moment), rest)
  | none =>
    let word := text.takeWhile isWordChar
    (word? word).map (·, text.drop word.length)

end ParcelPricing.Toml
