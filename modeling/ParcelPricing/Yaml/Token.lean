import ParcelPricing.Yaml.Cursor

namespace ParcelPricing.Yaml

inductive Token where
  | version
  | tagHandle (handle target : List Char)
  | documentStart
  | documentEnd
  | blockList
  | blockTable
  | blockEnd
  | flowList
  | flowListEnd
  | flowTable
  | flowTableEnd
  | dash
  | comma
  | key
  | value
  | alias (name : List Char)
  | anchor (column : Nat) (name : List Char)
  | tag (column : Nat) (handle suffix : List Char)
  | text (plain : Bool) (text : List Char)

namespace Token

/-- An anchor or a tag at the left edge. -/
def isEdgeProperty : Token → Bool
  | anchor column _ | tag column _ _ => column = 0
  | _ => false

def isDocumentEnd : Token → Bool
  | documentEnd => true
  | _ => false

def isDirective : Token → Bool
  | version | tagHandle _ _ => true
  | _ => false

/-- Tokens that lie outside of documents. -/
def isOutside : Token → Bool
  | version | tagHandle _ _ | documentStart | documentEnd => true
  | _ => false

end Token

namespace Tag

def isUriChar (c : Char) : Bool := c.isAlphanum || "-#;/?:@&=+$,_.!~*'()[]%".toList.contains c

def isTagChar (c : Char) : Bool := isUriChar c && !isFlowMark c && c ≠ '!'

/-- The byte of two hexadecimal digits after a percent sign. -/
def readByte : List Char → Option (Nat × List Char)
  | '%' :: a :: b :: text => do return (16 * (← Text.hexValue? a) + (← Text.hexValue? b), text)
  | _ => none

/-- The character of an escape. That of two bytes has both of them as its number, and there is none
of more bytes. -/
def readEscape (text : List Char) : Option (Char × List Char) := do
  let (first, rest) ← readByte text
  if first < 0x80 then return (Char.ofNat first, rest)
  let (second, rest) ← readByte rest
  guard (0xC0 ≤ first ∧ first < 0xE0 ∧ 0x80 ≤ second ∧ second < 0xC0)
  return (← Text.charOf? (0x100 * first + second), rest)

/-- Characters of a tag, some of them written as escapes. The first argument bounds the work. -/
def readChars (p : Char → Bool) : Nat → Cursor → Option (List Char × Cursor)
  | 0, _ => none
  | fuel + 1, c =>
    if !p c.head then some ([], c)
    else if c.head = '%' then do
      let (d, after) ← readEscape c.text
      let (text, rest) ← readChars p fuel (c.skip (c.text.length - after.length))
      return (d :: text, rest)
    else (readChars p fuel (c.skip 1)).map fun (text, rest) => (c.head :: text, rest)

def readAll (p : Char → Bool) (c : Cursor) : Option (List Char × Cursor) :=
  readChars p c.text.length.succ c

/-- A handle with its exclamation marks. One that is not closed is not yet known to be a handle. -/
def readHandle (c : Cursor) : Option (List Char × Cursor) := do
  if c.head ≠ '!' then none
  let (name, c) := (c.skip 1).readWhile isWordChar
  if c.head = '!' then return ('!' :: name ++ ['!'], c.skip 1) else return ('!' :: name, c)

/-- A tag: an address in angles, or a handle and the rest of the name. -/
def read (flow : Bool) (c : Cursor) : Option (Token × Cursor) := do
  let column := c.column
  let (handle, suffix, c) ← if c.next = '<' then do
      let (address, c) ← readAll isUriChar (c.skip 2)
      if c.head = '>' then pure ([], address, c.skip 1) else none
    else do
      let (handle, c) ← readHandle c
      if 2 ≤ handle.length ∧ handle.getLast? = some '!' then do
        let (suffix, c) ← readAll isTagChar c
        if suffix = [] then none else pure (handle, suffix, c)
      else do
        let (suffix, c) ← readAll isTagChar c
        let suffix := handle.tail ++ suffix
        if suffix = [] then pure ([], ['!'], c) else pure (['!'], suffix, c)
  if !(isSpace c.head || flow && isFlowMark c.head) then none
  return (.tag column handle suffix, c)

end Tag

namespace Directive

/-- One digit or more, at most nine of them. -/
def skipNumber (c : Cursor) : Option Cursor :=
  let (digits, c) := c.readWhile Char.isDigit
  if digits = [] ∨ 9 < digits.length then none else some c

def readVersion (c : Cursor) : Option (Token × Cursor) := do
  let c ← skipNumber (c.passWhile isBlank)
  if c.head ≠ '.' then none
  return (.version, ← skipNumber (c.skip 1))

/-- What a handle of tags stands for. -/
def readHandle (c : Cursor) : Option (Token × Cursor) := do
  let (handle, c) ← Tag.readHandle (c.passWhile isBlank)
  if handle.length ≠ 1 ∧ handle.getLast? ≠ some '!' then none
  let c := c.passWhile isBlank
  if !(c.head = '!' || Tag.isTagChar c.head) then none
  let (target, c) ← Tag.readAll (fun d => Tag.isUriChar d) c
  if isSpace c.head then return (.tagHandle handle target, c) else none

/-- A directive after its percent sign, on a line of its own. Unknown ones have no meaning. -/
def read (c : Cursor) : Option (Token × Cursor) := do
  let (name, c) := (c.skip 1).readWhile isWordChar
  if name = [] ∨ !isSpace c.head then none
  let (token, c) ←
    if name = "YAML".toList then readVersion c
    else if name = "TAG".toList then readHandle c
    else pure (.tagHandle [] [], (c.readWhile fun d => !isLineEnd d).2)
  let (_, c) ← c.skipToLineEnd true
  if isLineEnd c.head then return (token, c.skipBreak) else none

end Directive

end ParcelPricing.Yaml
