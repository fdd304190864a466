import ParcelPricing.Decimal.Reader
import ParcelPricing.Ron.Name
import ParcelPricing.Ron.Quoted
import ParcelPricing.Settings.Setting

namespace ParcelPricing.Ron
open Decimal Text

def isIntegerChar (c : Char) : Bool := (hexValue? c).isSome || c = '_'

def isFloatChar (c : Char) : Bool := c.isDigit || "eE.+-_".toList.contains c

/-- The digits of a whole number in a base, with low lines between them. -/
def readInBase (base : Nat) (text : List Char) : Option (Nat × List Char) := do
  let digits := text.takeWhile isIntegerChar
  guard (digits ≠ [] ∧ digits.head? ≠ some '_')
  let values ← (digits.filter (· ≠ '_')).mapM hexValue?
  guard (values.all (· < base))
  return (values.foldl (fun n v => base * n + v) 0, text.drop digits.length)

def readNatural : List Char → Option (Nat × List Char)
  | '0' :: 'b' :: text => readInBase 2 text
  | '0' :: 'o' :: text => readInBase 8 text
  | '0' :: 'x' :: text => readInBase 16 text
  | text => readInBase 10 text

/-- Widths of whole numbers, with the least and the greatest of each. -/
def widths : List (String × Int × Int) :=
  [("i8", -0x80, 0x7F), ("i16", -0x8000, 0x7FFF), ("i32", -0x80000000, 0x7FFFFFFF),
    ("i64", -0x8000000000000000, 0x7FFFFFFFFFFFFFFF), ("u8", 0, 0xFF), ("u16", 0, 0xFFFF),
    ("u32", 0, 0xFFFFFFFF), ("u64", 0, 0xFFFFFFFFFFFFFFFF)]

/-- Whether a number without a width fits 64 bits, one of them for a minus. -/
def fitsFreely (negative : Bool) (n : Int) : Bool :=
  if negative then isWord n else n ≤ 0xFFFFFFFFFFFFFFFF

def readInteger (text : List Char) : Option (Int × List Char) := do
  let (negative, unsigned) := splitSign text
  let (n, rest) ← readNatural unsigned
  let value : Int := if negative then -n else n
  match widths.findSome? fun w => (strip? w.1 rest).map (w.2, ·) with
  | some ((least, greatest), rest) =>
    guard (least ≤ value ∧ value ≤ greatest)
    return (value, rest)
  | none =>
    guard (fitsFreely negative value)
    return (value, rest)

/-- Low lines may follow digits, and do not count. -/
def withoutLines : Bool → List Char → Option (List Char)
  | _, [] => some []
  | follows, c :: text =>
    if c = '_' then if follows then withoutLines follows text else none
    else (withoutLines (c.isDigit || c.toLower = 'e' || follows && c ≠ '.') text).map (c :: ·)

def readFloat (text : List Char) : Option (Float × List Char) := do
  let written := text.takeWhile isFloatChar
  let digits ← withoutLines false written
  let rest := text.drop written.length
  match strip? "f32" rest, strip? "f64" rest with
  | some rest, _ => return (← readSingle? digits, rest)
  | none, some rest => return (← readDouble? digits, rest)
  | none, none => return (← readDouble? digits, rest)

/-- Numbers without digits, which may have a sign and a width. -/
def readSpecial (text : List Char) : Option (Float × List Char) :=
  let (negative, unsigned) := splitSign text
  let found := ["", "f32", "f64"].findSome? fun width =>
    match strip? ("inf" ++ width) unsigned, strip? ("NaN" ++ width) unsigned with
    | some rest, _ => some (infinity, rest)
    | none, some rest => some (0.0 / 0.0, rest)
    | none, none => none
  found.map fun (x, rest) => (if negative then -x else x, rest)

/-- A number: a whole one if its text admits that, or else a decimal. -/
def readNumber (text : List Char) : Option (Setting × List Char) :=
  let unsigned := (splitSign text).2
  let isFloat :=
    (unsigned.takeWhile isIntegerChar).length < (unsigned.takeWhile isFloatChar).length
  let whole := if isFloat then none else readInteger text
  let decimal := (readSpecial text).or (readFloat text)
  match text with
  | 'b' :: '\'' :: text => (readByte text).map fun (n, rest) => (.whole n, rest)
  | _ =>
    match whole with
    | some (n, rest) => some (.whole n, rest)
    | none => decimal.map fun (x, rest) => (.decimal x, rest)

end ParcelPricing.Ron
