import ParcelPricing.Ron.Space
import ParcelPricing.Text.CodePoint
import ParcelPricing.Text.Numeral

/-! Quoted texts of RON. A string is made of bytes, which must be UTF-8 together. -/
namespace ParcelPricing.Ron
open Text

/-- What a backslash stands for. -/
inductive Escape where
  | char (c : Char)
  /-- a byte given by its number -/
  | byte (n : Nat)
  /-- a line end, which goes with all blanks after it -/
  | lineEnd

def readEscape : List Char → Option (Escape × List Char)
  | '\'' :: text => some (.char '\'', text)
  | '"' :: text => some (.char '"', text)
  | '\\' :: text => some (.char '\\', text)
  | 'n' :: text => some (.char '\n', text)
  | 'r' :: text => some (.char '\r', text)
  | 't' :: text => some (.char '\t', text)
  | '0' :: text => some (.char '\x00', text)
  | 'x' :: a :: b :: text => do return (.byte (16 * (← hexValue? a) + (← hexValue? b)), text)
  | 'u' :: '\x7b' :: text =>
    let digits := text.takeWhile (· ≠ '\x7d')
    if digits = [] ∨ 6 < digits.length then none
    else (codePoint? digits).map fun c => (.char c, text.drop digits.length.succ)
  | '\n' :: text | '\r' :: '\n' :: text => some (.lineEnd, text.dropWhile isSpace)
  | _ => none

def Escape.bytes : Escape → List UInt8
  | char c => String.utf8EncodeChar c
  | byte n => [n.toUInt8]
  | lineEnd => []

/-- The bytes up to the closing quote. The first argument bounds the work. -/
def readBytes : Nat → List Char → Option (List UInt8 × List Char)
  | 0, _ => none
  | _, [] => none
  | _ + 1, '"' :: text => some ([], text)
  | fuel + 1, '\\' :: text => do
    let (escape, rest) ← readEscape text
    let (bytes, rest) ← readBytes fuel rest
    return (escape.bytes ++ bytes, rest)
  | fuel + 1, c :: text =>
    (readBytes fuel text).map fun (bytes, rest) => (String.utf8EncodeChar c ++ bytes, rest)

/-- The rest of a string up to its closing quote. -/
def readString (text : List Char) : Option (String × List Char) := do
  let (bytes, rest) ← readBytes text.length.succ text
  return (← String.fromUTF8? ⟨bytes.toArray⟩, rest)

/-- The text before a mark, and what follows the mark. -/
def splitAtMark? (mark : List Char) : List Char → Option (List Char × List Char)
  | [] => none
  | c :: text =>
    if mark.isPrefixOf (c :: text) then some ([], (c :: text).drop mark.length)
    else (splitAtMark? mark text).map fun (before, rest) => (c :: before, rest)

/-- A string without escapes, after its letter: number signs and a quote around it. -/
def readRaw (text : List Char) : Option (String × List Char) :=
  let signs := text.takeWhile (· = '#')
  match text.drop signs.length with
  | '"' :: rest => (splitAtMark? ('"' :: signs) rest).map fun (text, rest) => (.ofList text, rest)
  | _ => none

/-- A character after its quote. A byte is one only below 128. -/
def readChar : List Char → Option (Char × List Char)
  | '\\' :: text => do
    match ← readEscape text with
    | (.char c, rest) => return (c, ← expect '\'' rest)
    | (.byte n, rest) => guard (n < 0x80); return (Char.ofNat n, ← expect '\'' rest)
    | (.lineEnd, _) => none
  | c :: text => (expect '\'' text).map (c, ·)
  | [] => none

/-- The number of a byte, after its letter and quote. It is in ASCII, or has a number of its own. -/
def readByte : List Char → Option (Nat × List Char)
  | '\\' :: 'x' :: a :: b :: text => do
    return (16 * (← hexValue? a) + (← hexValue? b), ← expect '\'' text)
  | '\\' :: 'u' :: _ => none
  | text => do
    let (c, rest) ← readChar text
    guard (c.toNat < 0x80)
    return (c.toNat, rest)

end ParcelPricing.Ron
