import ParcelPricing.Json.Document
import ParcelPricing.Text.CodePoint
import ParcelPricing.Text.Numeral

/-! Reading JSON by the grammar of RFC 8259. -/
namespace ParcelPricing.Json
open Text

def isSpace (c : Char) : Bool := c = ' ' || c = '\t' || c = '\n' || c = '\r'

def skipSpace (text : List Char) : List Char := text.dropWhile isSpace

def hexUnit? (a b c d : Char) : Option Nat := do
  return ((← hexValue? a) * 16 + (← hexValue? b)) * 256 + (← hexValue? c) * 16 + (← hexValue? d)

def escapeLetter? : Char → Option Char
  | '"' => some '"'
  | '\\' => some '\\'
  | '/' => some '/'
  | 'b' => some '\x08'
  | 'f' => some '\x0c'
  | 'n' => some '\n'
  | 'r' => some '\r'
  | 't' => some '\t'
  | _ => none

/-- The character of a leading and a trailing surrogate. -/
def pairChar? (lead trail : Nat) : Option Char :=
  if 0xD800 ≤ lead && lead < 0xDC00 && 0xDC00 ≤ trail && trail < 0xE000 then
    charOf? (0x10000 + (lead - 0xD800) * 0x400 + (trail - 0xDC00))
  else none

/-- The rest of a string, up to its closing quote. -/
def readString : List Char → Option (List Char × List Char)
  | [] => none
  | '"' :: rest => some ([], rest)
  | '\\' :: 'u' :: a :: b :: c :: d :: '\\' :: 'u' :: e :: f :: g :: h :: rest => do
    let first ← hexUnit? a b c d
    match charOf? first with
    | some x =>
      let (tail, rest) ← readString ('\\' :: 'u' :: e :: f :: g :: h :: rest)
      return (x :: tail, rest)
    | none =>
      let x ← pairChar? first (← hexUnit? e f g h)
      let (tail, rest) ← readString rest
      return (x :: tail, rest)
  | '\\' :: 'u' :: a :: b :: c :: d :: rest => do
    let x ← charOf? (← hexUnit? a b c d)
    let (tail, rest) ← readString rest
    return (x :: tail, rest)
  | '\\' :: letter :: rest => do
    let x ← escapeLetter? letter
    let (tail, rest) ← readString rest
    return (x :: tail, rest)
  | x :: rest =>
    if x = '\\' || x.toNat < 0x20 then none
    else (readString rest).map fun (tail, rest) => (x :: tail, rest)

/-- An optional part of a number: a mark, then one digit or more. -/
def numberPart (isMark : Char → Bool) (signed : Bool) (text : List Char) :
    Option (List Char × List Char) :=
  match text with
  | mark :: rest =>
    if isMark mark then
      let sign := if signed then rest.takeWhile (fun c => c = '+' || c = '-') else []
      let digits := leadingDigits (rest.drop sign.length)
      if sign.length ≤ 1 ∧ digits ≠ [] then
        some (mark :: sign ++ digits, rest.drop (sign.length + digits.length))
      else none
    else some ([], text)
  | [] => some ([], [])

def readNumber (text : List Char) : Option (List Char × List Char) := do
  let minus := text.takeWhile (· = '-')
  let whole := leadingDigits (text.drop minus.length)
  guard (minus.length ≤ 1 ∧ whole ≠ [] ∧ (whole.head? = some '0' → whole.length = 1))
  let (fraction, rest) ← numberPart (· = '.') false (text.drop (minus.length + whole.length))
  let (exponent, rest) ← numberPart (fun c => c = 'e' || c = 'E') true rest
  return (minus ++ whole ++ fraction ++ exponent, rest)

def stripWord (word : String) (text : List Char) : Option (List Char) :=
  if text.take word.length = word.toList then some (text.drop word.length) else none

mutual

/-- A value and what follows it. The first argument bounds the work and is spent by one at every
call. -/
def readValue : Nat → List Char → Option (Json × List Char)
  | 0, _ => none
  | fuel + 1, text =>
    match skipSpace text with
    | '"' :: rest => (readString rest).map fun (value, rest) => (string value, rest)
    | '[' :: rest =>
      match skipSpace rest with
      | ']' :: rest => some (array [], rest)
      | rest => (readItems fuel rest).map fun (items, rest) => (array items, rest)
    | '\x7b' :: rest =>
      match skipSpace rest with
      | '\x7d' :: rest => some (object [], rest)
      | rest => (readFields fuel rest).map fun (fields, rest) => (object fields, rest)
    | text =>
      match stripWord "null" text, stripWord "true" text, stripWord "false" text with
      | some rest, _, _ => some (null, rest)
      | _, some rest, _ => some (bool true, rest)
      | _, _, some rest => some (bool false, rest)
      | _, _, _ => (readNumber text).map fun (text, rest) => (number text, rest)

/-- One item or more, up to the closing bracket. -/
def readItems : Nat → List Char → Option (List Json × List Char)
  | 0, _ => none
  | fuel + 1, text => do
    let (item, rest) ← readValue fuel text
    match skipSpace rest with
    | ',' :: rest =>
      let (items, rest) ← readItems fuel rest
      return (item :: items, rest)
    | ']' :: rest => return ([item], rest)
    | _ => none

/-- One field or more, up to the closing brace. -/
def readFields : Nat → List Char → Option (List (List Char × Json) × List Char)
  | 0, _ => none
  | fuel + 1, text => do
    let rest ← expect '"' (skipSpace text)
    let (key, rest) ← readString rest
    let rest ← expect ':' (skipSpace rest)
    let (value, rest) ← readValue fuel rest
    match skipSpace rest with
    | ',' :: rest =>
      let (fields, rest) ← readFields fuel rest
      return ((key, value) :: fields, rest)
    | '\x7d' :: rest => return ([(key, value)], rest)
    | _ => none

end

/-- The one document that a text holds. -/
def read? (text : List Char) : Option Json := do
  let (document, rest) ← readValue (2 * text.length + 2) text
  guard (skipSpace rest = [])
  return document

end ParcelPricing.Json
