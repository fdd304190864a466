import ParcelPricing.Yaml.Cursor

namespace ParcelPricing.Yaml
open Text

/-- Blanks and line ends between two words of a text. -/
structure Gap where
  /-- the blanks, if they are all on one line -/
  blanks : List Char := []
  /-- whether a line end was there, or a backslash before one -/
  broken : Bool := false
  /-- whether that line end counts by itself -/
  folded : Bool := false
  /-- the further line ends -/
  breaks : Nat := 0

def Gap.chars (g : Gap) : List Char :=
  if !g.broken then g.blanks
  else if g.folded && g.breaks = 0 then [' ']
  else List.replicate g.breaks '\n'

/-- One more line end. -/
def Gap.withBreak (g : Gap) : Gap :=
  if g.broken then { g with breaks := g.breaks + 1 }
  else { g with blanks := [], broken := true, folded := true }

namespace Quoted

/-- The gap from here on. No tab stands before the indentation of a line is reached. The first
argument bounds the work. -/
def readGap (indent : Int) : Nat → Gap → Cursor → Option (Gap × Cursor)
  | 0, _, _ => none
  | fuel + 1, g, c =>
    if isBlank c.head then
      if !g.broken then readGap indent fuel { g with blanks := g.blanks ++ [c.head] } (c.pass 1)
      else if c.head = '\t' && (c.column : Int) < indent then none
      else readGap indent fuel g (c.pass 1)
    else if isBreak c.head then readGap indent fuel g.withBreak c.skipBreak
    else some (g, c)

/-- What a letter means behind a backslash. -/
def unescaped? : Char → Option Char
  | '0' => some '\x00'
  | 'a' => some '\x07'
  | 'b' => some '\x08'
  | 't' | '\t' => some '\t'
  | 'n' => some '\n'
  | 'v' => some '\x0b'
  | 'f' => some '\x0c'
  | 'r' => some '\r'
  | 'e' => some '\x1b'
  | ' ' => some ' '
  | '"' => some '"'
  | '/' => some '/'
  | '\\' => some '\\'
  | 'N' => some '\u0085'
  | '_' => some '\u00A0'
  | 'L' => some '\u2028'
  | 'P' => some '\u2029'
  | _ => none

/-- The character of a backslash, and the place after it. -/
def readEscape (c : Cursor) : Option (Char × Cursor) :=
  match escapeDigits? c.next with
  | some n =>
    let digits := (c.text.drop 2).take n
    if digits.length = n then (codePoint? digits).map (·, c.skip (n + 2)) else none
  | none => (unescaped? c.next).map (·, c.skip 2)

/-- The characters up to a blank, a line end or the closing quote, and whether a backslash before a
line end stopped them. The first argument bounds the work. -/
def readWord (single : Bool) : Nat → Cursor → Option (List Char × Bool × Cursor)
  | 0, _ => none
  | fuel + 1, c =>
    if isSpace c.head then some ([], false, c)
    else if single && c.head = '\'' then
      if c.next = '\'' then (readWord single fuel (c.skip 2)).map fun (w, r) => ('\'' :: w, r)
      else some ([], false, c)
    else if !single && c.head = '"' then some ([], false, c)
    else if !single && c.head = '\\' then
      if isBreak c.next then some ([], true, (c.skip 1).skipBreak)
      else do
        let (d, c) ← readEscape c
        let (word, rest) ← readWord single fuel c
        return (d :: word, rest)
    else (readWord single fuel (c.skip 1)).map fun (w, r) => (c.head :: w, r)

/-- A text up to its closing quote, and the place after that. The first argument bounds the work. -/
def readText (single : Bool) (indent : Int) : Nat → Cursor → Option (List Char × Cursor)
  | 0, _ => none
  | fuel + 1, c => do
    if c.isDocumentMark || c.head = ended || (c.column : Int) < indent then none
    let (word, broken, c) ← readWord single c.text.length.succ c
    if c.head = if single then '\'' else '"' then return (word, c.skip 1)
    let (gap, c) ← readGap indent c.text.length.succ { broken } c
    let (text, c) ← readText single indent fuel c
    return (word ++ gap.chars ++ text, c)

/-- A text after its opening quote. -/
def read (single : Bool) (indent : Int) (c : Cursor) : Option (List Char × Cursor) :=
  readText single indent c.text.length.succ c

end Quoted

end ParcelPricing.Yaml
