import ParcelPricing.Text.Numeral

/-! Whole numbers of 64 bits and doubles, read from text. -/
namespace ParcelPricing.Decimal
open Text

/-- ASCII letters in lower case; other characters stay. -/
def lowered (text : List Char) : List Char := text.map Char.toLower

/-- The text after an optional sign, and whether the sign was a minus. -/
def splitSign : List Char → Bool × List Char
  | '-' :: text => (true, text)
  | '+' :: text => (false, text)
  | text => (false, text)

/-- Whether a whole number fits 64 bits, one of them for the sign. -/
def isWord (n : Int) : Bool := -0x8000000000000000 ≤ n && n ≤ 0x7FFFFFFFFFFFFFFF

def readWhole? (text : List Char) : Option Int :=
  let (negative, digits) := splitSign text
  if digits ≠ [] ∧ digits.all Char.isDigit then
    let n : Int := if negative then -value digits else value digits
    if isWord n then some n else none
  else none

/-- An exponent at the end of a number: nothing, or a mark followed by a whole number. -/
def readExponent : List Char → Option Int
  | [] => some 0
  | mark :: text =>
    let (negative, digits) := splitSign text
    if mark.toLower = 'e' ∧ digits ≠ [] ∧ digits.all Char.isDigit then
      some (if negative then -value digits else value digits)
    else none

/-- The double nearest to `digits * 10 ^ exponent`. -/
def nearest (digits : Nat) (exponent : Int) : Float :=
  Float.ofScientific digits (exponent < 0) exponent.natAbs

/-- Digits on at least one side of an optional point, and an optional exponent: a whole number, and
the power of ten that multiplies it. -/
def readScientific? (text : List Char) : Option (Nat × Int) := do
  let whole := leadingDigits text
  let rest := text.drop whole.length
  let (fraction, rest) := match rest with
    | '.' :: rest => (leadingDigits rest, rest.drop (leadingDigits rest).length)
    | rest => ([], rest)
  guard (whole ++ fraction ≠ [])
  let exponent ← readExponent rest
  return (value (whole ++ fraction), exponent - fraction.length)

def readUnsigned? (text : List Char) : Option Float :=
  (readScientific? text).map fun (digits, exponent) => nearest digits exponent

def infinity : Float := 1.0 / 0.0

def readDouble? (text : List Char) : Option Float :=
  let (negative, unsigned) := splitSign text
  let magnitude? : Option Float :=
    if lowered unsigned = "nan".toList then some (0.0 / 0.0)
    else if lowered unsigned ∈ ["inf".toList, "infinity".toList] then some infinity
    else readUnsigned? unsigned
  magnitude?.map fun x => if negative then -x else x

/-- The number of single precision nearest to one with digits, as a double. -/
def readSingle? (text : List Char) : Option Float := do
  let (negative, unsigned) := splitSign text
  let (digits, exponent) ← readScientific? unsigned
  let x := (Float32.ofScientific digits (exponent < 0) exponent.natAbs).toFloat
  return if negative then -x else x

end ParcelPricing.Decimal
