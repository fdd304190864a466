import ParcelPricing.Ron.Attribute
import ParcelPricing.Ron.Number

/-! Settings as RON. Names of types do not count. -/
namespace ParcelPricing.Ron
open Text

/-- A list, a table and each thing in it take a level of these; an option takes one. -/
def mostLevels : Nat := 128

/-- What a bracket after an optional name of a type opens. -/
inductive Bracket where
  | fields
  | items

/-- A bracket opens fields if a name and a colon follow it. -/
def bracketOf (text : List Char) : Option Bracket := do
  match readName text with
  | some (_, rest) => return if (← skipSpace rest).head? = some ':' then .fields else .items
  | none => return .items

/-- The comma after an item, which the closing mark makes free. -/
def skipComma (close : Char) : List Char → Option (List Char)
  | [] => none
  | c :: text => if c = ',' then some text else if c = close then some (c :: text) else none

/-- Kinds of keys in a map, in their order. Of equal texts the last kind counts. -/
inductive KeyKind where
  | char
  | string
  | bytes
deriving DecidableEq

structure Entry where
  kind : KeyKind
  key : String
  value : Setting

/-- The fields of entries: kind after kind, and later entries over earlier ones. -/
def fieldsOf (entries : List Entry) : Fields :=
  let sorted := [KeyKind.char, .string, .bytes].flatMap fun kind => entries.filter (·.kind = kind)
  sorted.foldl (fun fields e => fields.put e.key e.value) []

/-- A key of a map. Bytes are one if they are UTF-8, and nothing that begins with a name is. -/
def readKey (text : List Char) : Option (KeyKind × String × List Char) :=
  if (readName text).isSome then none
  else match text with
    | '\'' :: text => (readChar text).map fun (c, rest) => (.char, .ofList [c], rest)
    | '"' :: text => (readString text).map fun (key, rest) => (.string, key, rest)
    | 'r' :: text => (readRaw text).map fun (key, rest) => (.string, key, rest)
    | 'b' :: '"' :: text => (readString text).map fun (key, rest) => (.bytes, key, rest)
    | 'b' :: 'r' :: text => (readRaw text).map fun (key, rest) => (.bytes, key, rest)
    | _ => none

/-- Bytes are a list of their numbers. -/
def ofBytes (bytes : List UInt8) : Setting := .list (bytes.map fun b => .whole b.toNat)

/-- Words that are values of their own. -/
def readWord (text : List Char) : Option (Setting × List Char) :=
  match strip? "true" text, strip? "false" text, strip? "None" text, readSpecial text with
  | some rest, _, _, _ => some (.truth true, rest)
  | _, some rest, _, _ => some (.truth false, rest)
  | _, _, some rest, _ => some (.absent, rest)
  | _, _, _, some (x, rest) => some (.decimal x, rest)
  | _, _, _, none => none

mutual

/-- A value and what follows it, with so many levels left. Options may be free of their brackets.
The second argument bounds the work and is spent by one at every call. -/
def readValue (free : Bool) : Nat → Nat → List Char → Option (Setting × List Char)
  | 0, _, _ => none
  | fuel + 1, levels, text =>
    match readWord text, strip? "Some" text, readName text with
    | some word, _, _ => some word
    | none, some rest, _ => readOption free fuel levels rest
    | none, none, some (_, rest) => do
      match ← skipSpace rest with
      | '(' :: rest => readBracket free fuel levels rest
      | rest => return (.absent, rest)
    | none, none, none =>
      match text with
      | '(' :: ')' :: rest => some (.absent, rest)
      | '(' :: rest => readBracket free fuel levels rest
      | '[' :: rest => do
        guard (0 < levels)
        let (items, rest) ← readItems free fuel (levels - 1) ']' rest
        return (.list items, rest)
      | '\x7b' :: rest => do
        guard (0 < levels)
        let (entries, rest) ← readEntries free fuel (levels - 1) rest
        return (.table (fieldsOf entries), rest)
      | '"' :: rest => (readString rest).map fun (value, rest) => (.text value, rest)
      | 'r' :: rest => (readRaw rest).map fun (value, rest) => (.text value, rest)
      | '\'' :: rest => (readChar rest).map fun (c, rest) => (.text (.ofList [c]), rest)
      | 'b' :: '"' :: rest =>
        (readBytes rest.length.succ rest).map fun (bytes, rest) => (ofBytes bytes, rest)
      | 'b' :: 'r' :: rest => (readRaw rest).map fun (s, rest) => (ofBytes s.toUTF8.toList, rest)
      | text => readNumber text
termination_by structural n => n

/-- What an option holds, after its word. -/
def readOption (free : Bool) : Nat → Nat → List Char → Option (Setting × List Char)
  | 0, _, _ => none
  | fuel + 1, levels, text => do
    guard (0 < levels)
    match ← skipSpace text with
    | '(' :: rest => do
      let (value, rest) ← readValue free fuel (levels - 1) (← skipSpace rest)
      let rest ← skipSpace rest
      let rest ← skipSpace (if rest.head? = some ',' then rest.tail else rest)
      return (value, ← expect ')' rest)
    | rest => if free then readValue free fuel (levels - 1) rest else none
termination_by structural n => n

/-- Fields or items up to the closing bracket. -/
def readBracket (free : Bool) : Nat → Nat → List Char → Option (Setting × List Char)
  | 0, _, _ => none
  | fuel + 1, levels, text => do
    guard (0 < levels)
    match ← bracketOf (← skipSpace text) with
    | .fields => do
      let (fields, rest) ← readFields free fuel (levels - 1) [] text
      return (.table fields, rest)
    | .items => do
      let (items, rest) ← readItems free fuel (levels - 1) ')' text
      return (.list items, rest)
termination_by structural n => n

/-- Items with commas between them, up to their closing mark. -/
def readItems (free : Bool) : Nat → Nat → Char → List Char → Option (List Setting × List Char)
  | 0, _, _, _ => none
  | fuel + 1, levels, close, text => do
    match ← skipSpace text with
    | [] => none
    | c :: rest =>
      if c = close then return ([], rest)
      guard (0 < levels)
      let (item, rest) ← readValue free fuel (levels - 1) (c :: rest)
      let (items, rest) ← readItems free fuel levels close (← skipComma close (← skipSpace rest))
      return (item :: items, rest)
termination_by structural n => n

/-- Named fields, up to their closing bracket. -/
def readFields (free : Bool) : Nat → Nat → Fields → List Char → Option (Fields × List Char)
  | 0, _, _, _ => none
  | fuel + 1, levels, fields, text => do
    match ← skipSpace text with
    | ')' :: rest => return (fields, rest)
    | text => do
      guard (0 < levels)
      let (name, rest) ← readName text
      let rest ← expect ':' (← skipSpace rest)
      let (value, rest) ← readValue free fuel (levels - 1) (← skipSpace rest)
      let rest ← skipComma ')' (← skipSpace rest)
      readFields free fuel levels (fields.put (.ofList name) value) rest
termination_by structural n => n

/-- Keys with values, up to their closing brace. -/
def readEntries (free : Bool) : Nat → Nat → List Char → Option (List Entry × List Char)
  | 0, _, _ => none
  | fuel + 1, levels, text => do
    match ← skipSpace text with
    | '\x7d' :: rest => return ([], rest)
    | text => do
      guard (0 < levels)
      let (kind, key, rest) ← readKey text
      let rest ← expect ':' (← skipSpace rest)
      let (value, rest) ← readValue free fuel (levels - 1) (← skipSpace rest)
      let rest ← skipComma '\x7d' (← skipSpace rest)
      let (entries, rest) ← readEntries free fuel levels rest
      return (⟨kind, key, value⟩ :: entries, rest)
termination_by structural n => n

end

/-- The settings of a document, which must have fields or entries. -/
def read? (text : List Char) : Option Fields := do
  let (extensions, text) ← readAttributes text.length.succ text
  let free := extensions.contains "implicit_some".toList
  let (value, rest) ← readValue free (4 * text.length + 4) mostLevels text
  guard ((← skipSpace rest) = [])
  value.fields?

end ParcelPricing.Ron
