import ParcelPricing.Json.Reader
import ParcelPricing.Json5.Space
import ParcelPricing.Text.CodePoint

namespace ParcelPricing.Json5
open Text

/-- Letters that mean a character behind a backslash. Other marks stand for themselves. -/
def unescaped? : Char → Option Char
  | 'b' => some '\x08'
  | 'f' => some '\x0c'
  | 'n' => some '\n'
  | 'r' => some '\r'
  | 't' => some '\t'
  | 'v' => some '\x0b'
  | c => if c.isDigit || c = 'x' || c = 'u' || isLineEnd c then none else some c

/-- The character of four hexadecimal digits. A leading surrogate needs a trailing one after it. -/
def readUnit : List Char → Option (Char × List Char)
  | a :: b :: c :: d :: rest => do
    let first ← Json.hexUnit? a b c d
    match charOf? first, rest with
    | some x, rest => return (x, rest)
    | none, '\\' :: 'u' :: e :: f :: g :: h :: rest =>
      return (← Json.pairChar? first (← Json.hexUnit? e f g h), rest)
    | none, _ => none
  | _ => none

/-- What follows a backslash: a character, or none for a line end. -/
def readEscape : List Char → Option (Option Char × List Char)
  | [] => none
  | '\r' :: '\n' :: text => some (none, text)
  | '0' :: text => if (text.take 1).any Char.isDigit then none else some (some '\x00', text)
  | 'x' :: a :: b :: text => (codePoint? [a, b]).map fun c => (some c, text)
  | 'u' :: text => (readUnit text).map fun (c, rest) => (some c, rest)
  | c :: text =>
    if isLineEnd c then some (none, text) else (unescaped? c).map fun c => (some c, text)

/-- The rest of a string up to its closing quote. Of the ends of a line, only a line feed and a
carriage return may not stand in it. The first argument bounds the work. -/
def readString (quote : Char) : Nat → List Char → Option (List Char × List Char)
  | 0, _ => none
  | _, [] => none
  | fuel + 1, c :: text =>
    if c = quote then some ([], text)
    else if c = '\n' ∨ c = '\r' then none
    else if c = '\\' then do
      let (c?, rest) ← readEscape text
      let (value, rest) ← readString quote fuel rest
      return (c?.toList ++ value, rest)
    else (readString quote fuel text).map fun (value, rest) => (c :: value, rest)

/-- A string in either kind of quotes. -/
def readQuoted : List Char → Option (List Char × List Char)
  | '"' :: text => readString '"' text.length.succ text
  | '\'' :: text => readString '\'' text.length.succ text
  | _ => none

end ParcelPricing.Json5
