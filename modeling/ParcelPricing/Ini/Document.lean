import ParcelPricing.Settings.Setting
import ParcelPricing.Text.Blank
import ParcelPricing.Text.CodePoint

/-! Settings as INI. A line that is indented can only be a key. -/
namespace ParcelPricing.Ini
open Text

/-- What a letter means behind a backslash. Any other character stands for itself. -/
def unescaped : Char → Char
  | '0' => '\x00'
  | 'a' => '\x07'
  | 'b' => '\x08'
  | 't' => '\t'
  | 'r' => '\r'
  | 'n' => '\n'
  | c => c

/-- The character of four hexadecimal digits. A plus may stand for the first one. -/
def character? (a b c d : Char) : Option Char :=
  codePoint? (if a = '+' then [b, c, d] else [a, b, c, d])

/-- The text before a mark, and what follows from the mark on; or where there is no way on. A
backslash takes a line end away. -/
def readUntil (isMark : Char → Bool) : List Char → Except (List Char) (List Char × List Char)
  | [] => .error []
  | '\\' :: 'x' :: a :: b :: c :: d :: rest => do
    match character? a b c d with
    | none => .error (d :: rest)
    | some x =>
      let (text, rest) ← readUntil isMark rest
      return (x :: text, rest)
  | '\\' :: '\n' :: rest => readUntil isMark rest
  | '\\' :: c :: rest =>
    if c = 'x' then .error []
    else do
      let (text, rest) ← readUntil isMark rest
      return (unescaped c :: text, rest)
  | c :: rest =>
    if isMark c then .ok ([], c :: rest)
    else if c = '\\' then .error []
    else do
      let (text, rest) ← readUntil isMark rest
      return (c :: text, rest)

def isLineEnd (c : Char) : Bool := c = '\n' || c = '\r'

/-- The text up to the end of the line. The last line needs no end. -/
def readLine (text : List Char) : Option (List Char × List Char) := do
  let (line, rest) ← (readUntil isLineEnd (text ++ ['\n'])).toOption
  return (line, rest.dropLast)

def trimEnd (text : List Char) : List Char := (skipBlank text.reverse).reverse

/-- A value: quoted pieces, and the rest of the line without its blank ends. Blanks between a quoted
piece and the rest stay. The first argument bounds the work. -/
def readPieces : Nat → Bool → List Char → Option (List Char × List Char)
  | 0, _, _ => none
  | fuel + 1, first, text =>
    match text with
    | [] => some ([], [])
    | c :: rest =>
      if c = '"' || c = '\'' then do
        let (piece, rest) ← (readUntil (· = c) rest).toOption
        let (pieces, rest) ← readPieces fuel false rest.tail
        return (piece ++ pieces, rest)
      else (readLine text).map fun (line, rest) => (if first then trim line else trimEnd line, rest)

def readValue (text : List Char) : Option (List Char × List Char) :=
  let text := text.dropWhile fun c => isBlank c && !isLineEnd c
  readPieces text.length.succ true text

def isIndent (text : List Char) : Bool := (text.head?).any fun c => c = ' ' || c = '\t'

/-- The text after blanks, and whether it begins a line. An indented line is not entered. -/
def skipToText : Bool → List Char → Bool × List Char
  | begins, [] => (begins, [])
  | begins, c :: text =>
    if !isBlank c then (begins, c :: text)
    else if isLineEnd c && isIndent text then (c = '\n', text)
    else skipToText (c = '\n') text

/-- Sets a key in the section at hand, or outside of all. -/
def set (sectionName : Option String) (key : String) (value : Setting) (fields : Fields) : Fields :=
  match sectionName with
  | some name => fields.change name fun s => .table (s.fields.put key value)
  | none => fields.put key value

def isKeyEnd (c : Char) : Bool := c = '=' || c = ':'

/-- The lines of a document, with the section at hand and what is set so far. An indented key that
cannot be read is left out. The first argument bounds the work. -/
def readLines : Nat → Option String → Fields → Bool × List Char → Option Fields
  | 0, _, _, _ => none
  | _ + 1, _, fields, (_, []) => some fields
  | fuel + 1, name, fields, (begins, c :: text) =>
    if c = ';' ∨ c = '#' then do
      guard begins
      readLines fuel name fields (skipToText true (text.dropWhile (· ≠ '\n')).tail)
    else if c = '[' then do
      let (header, rest) ← (readUntil (· = ']') text).toOption
      let header := String.ofList (trim header)
      readLines fuel (some header) (fields.put header (.table [])) (skipToText false rest.tail)
    else match readUntil isKeyEnd (c :: text) with
      | .error rest =>
        if isIndent (c :: text) then readLines fuel name fields (skipToText false (skipBlank rest))
        else none
      | .ok (key, rest) => do
        let key := trim key
        guard (key ≠ [])
        let (value, rest) ← readValue rest.tail
        let value := Setting.text (.ofList value)
        readLines fuel name (set name (.ofList key) value fields) (skipToText false rest)

def read? (text : List Char) : Option Fields :=
  readLines text.length.succ none [] (if isIndent text then (true, text) else skipToText true text)

end ParcelPricing.Ini
