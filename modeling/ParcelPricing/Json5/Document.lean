import ParcelPricing.Json5.Name
import ParcelPricing.Json5.Number

/-! Settings as JSON5, with comments, names as keys and single quotes. -/
namespace ParcelPricing.Json5
open Text

def readKey (text : List Char) : Option (List Char × List Char) :=
  match text.head? with
  | some '"' | some '\'' => readQuoted text
  | _ => readName text

/-- A value that is neither a list nor a table. -/
def readPlain (text : List Char) : Option (Setting × List Char) :=
  match strip? "null" text, strip? "true" text, strip? "false" text, readQuoted text with
  | some rest, _, _, _ => some (.absent, rest)
  | _, some rest, _, _ => some (.truth true, rest)
  | _, _, some rest, _ => some (.truth false, rest)
  | _, _, _, some (value, rest) => some (.text (.ofList value), rest)
  | _, _, _, none => readNumber text

mutual

/-- A value and what follows it. The first argument bounds the work and is spent by one at every
call. -/
def readValue : Nat → List Char → Option (Setting × List Char)
  | 0, _ => none
  | fuel + 1, '[' :: text =>
    match skipSpace text with
    | ']' :: rest => some (.list [], rest)
    | rest => (readItems fuel rest).map fun (items, rest) => (.list items, rest)
  | fuel + 1, '\x7b' :: text =>
    match skipSpace text with
    | '\x7d' :: rest => some (.table [], rest)
    | rest => (readFields fuel [] rest).map fun (fields, rest) => (.table fields, rest)
  | _ + 1, text => readPlain text

/-- One item or more, up to the closing bracket. -/
def readItems : Nat → List Char → Option (List Setting × List Char)
  | 0, _ => none
  | fuel + 1, text => do
    let (item, rest) ← readValue fuel text
    match skipSpace rest with
    | ']' :: rest => return ([item], rest)
    | ',' :: rest =>
      match skipSpace rest with
      | ']' :: rest => return ([item], rest)
      | rest => (readItems fuel rest).map fun (items, rest) => (item :: items, rest)
    | _ => none

/-- One field or more, up to the closing brace. A later field replaces an earlier one. -/
def readFields : Nat → Fields → List Char → Option (Fields × List Char)
  | 0, _, _ => none
  | fuel + 1, fields, text => do
    let (key, rest) ← readKey text
    let rest ← expect ':' (skipSpace rest)
    let (value, rest) ← readValue fuel (skipSpace rest)
    let fields := fields.put (.ofList key) value
    match skipSpace rest with
    | '\x7d' :: rest => return (fields, rest)
    | ',' :: rest =>
      match skipSpace rest with
      | '\x7d' :: rest => return (fields, rest)
      | rest => readFields fuel fields rest
    | _ => none

end

/-- The settings of a document, which must be an object. -/
def read? (text : List Char) : Option Fields := do
  let (value, rest) ← readValue (2 * text.length + 2) (skipSpace text)
  guard (skipSpace rest = [])
  value.fields?

end ParcelPricing.Json5
