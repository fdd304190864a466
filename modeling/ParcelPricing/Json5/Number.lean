import ParcelPricing.Decimal.Reader
import ParcelPricing.Settings.Setting
import ParcelPricing.Text.CodePoint

namespace ParcelPricing.Json5
open Decimal Text

/-- Digits without a zero in front. -/
def readWholePart (text : List Char) : List Char :=
  if text.head? = some '0' then ['0'] else leadingDigits text

/-- An exponent, if one is there. -/
def readExponent (text : List Char) : List Char :=
  match text with
  | mark :: rest =>
    let sign := (rest.take 1).filter fun c => c = '+' || c = '-'
    let digits := leadingDigits (rest.drop sign.length)
    if mark.toLower = 'e' ∧ digits ≠ [] then mark :: sign ++ digits else []
  | [] => []

/-- The text of a number without its sign: digits with a point on either side of them or none, and
an optional exponent. -/
def readDigits (text : List Char) : List Char :=
  let whole := readWholePart text
  let rest := text.drop whole.length
  let fraction := match rest with
    | '.' :: rest => '.' :: leadingDigits rest
    | _ => []
  let digits := whole ++ if whole = [] ∧ fraction = ['.'] then [] else fraction
  if digits = [] then [] else digits ++ readExponent (text.drop digits.length)

/-- A whole number of 64 bits, and a decimal for any other. No setting has one that needs its sign
bit for a digit. -/
def ofWhole? (n : Int) (x : Float) : Option Setting :=
  if isWord n then some (.whole n)
  else if 0 < n ∧ n ≤ 0xFFFFFFFFFFFFFFFF then none
  else some (.decimal x)

/-- The magnitude of a number in hexadecimal, which has 128 bits at most. -/
def readHex (text : List Char) : Option (Nat × List Char) := do
  let digits := text.takeWhile fun c => (hexValue? c).isSome
  let values ← digits.mapM hexValue?
  let n : Nat := values.foldl (fun n v => 16 * n + v) 0
  guard (digits ≠ [] ∧ n < 0x100000000000000000000000000000000)
  return (n, text.drop digits.length)

/-- The number of digits without a sign, whose sign is known. -/
def numberOf? (negative : Bool) (digits : List Char) : Option Setting := do
  let magnitude ← readDouble? digits
  let x := if negative then -magnitude else magnitude
  if digits.all Char.isDigit then
    let n : Int := if negative then -value digits else value digits
    ofWhole? n x
  else return .decimal x

def strip? (word : String) (text : List Char) : Option (List Char) :=
  if word.toList.isPrefixOf text then some (text.drop word.length) else none

def readNumber (text : List Char) : Option (Setting × List Char) :=
  let (negative, unsigned) := splitSign text
  match unsigned, strip? "Infinity" unsigned, strip? "NaN" unsigned with
  | '0' :: 'x' :: rest, _, _ | '0' :: 'X' :: rest, _, _ => do
    let (n, rest) ← readHex rest
    let x := nearest n 0
    return (← if negative then ofWhole? (-n) (-x) else ofWhole? n x, rest)
  | _, some rest, _ => some (.decimal (if negative then -infinity else infinity), rest)
  | _, none, some rest => some (.decimal (0.0 / 0.0), rest)
  | _, none, none => do
    let digits := readDigits unsigned
    guard (digits ≠ [])
    return (← numberOf? negative digits, unsigned.drop digits.length)

end ParcelPricing.Json5
