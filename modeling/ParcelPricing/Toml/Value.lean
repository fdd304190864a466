import ParcelPricing.Toml.Node
import ParcelPricing.Toml.Quoted
import ParcelPricing.Toml.Scalar

namespace ParcelPricing.Toml

/-- How many values may stand inside one another, and how many words a key may have. -/
def mostLevels : Nat := 80

def isBareKeyChar (c : Char) : Bool := c.isAlphanum || c = '_' || c = '-'

def readKey : List Char → Option (String × List Char)
  | '"' :: rest => (readBasic rest).map fun (key, rest) => (.ofList key, rest)
  | '\'' :: rest => (readLiteral rest).map fun (key, rest) => (.ofList key, rest)
  | text =>
    let key := text.takeWhile isBareKeyChar
    if key = [] then none else some (.ofList key, text.drop key.length)

/-- At most so many keys, with points between them. -/
def readKeys : Nat → List Char → Option (List String × List Char)
  | 0, _ => none
  | most + 1, text => do
    let (key, rest) ← readKey (skipSpace text)
    match skipSpace rest with
    | '.' :: rest => (readKeys most rest).map fun (path, rest) => (key :: path, rest)
    | rest => return ([key], rest)

def readPath (text : List Char) : Option (List String × List Char) := readKeys mostLevels text

mutual

/-- A value and what follows it. The first argument bounds the work, the second the levels of values
that may stand inside. -/
def readValue : Nat → Nat → List Char → Option (Setting × List Char)
  | 0, _, _ => none
  | fuel + 1, levels, text =>
    match text, levels with
    | '[' :: _, 0 | '\x7b' :: _, 0 => none
    | '[' :: rest, levels + 1 =>
      (readItems fuel levels rest).map fun (items, rest) => (.list items, rest)
    | '\x7b' :: rest, levels + 1 =>
      (readFields fuel levels [] rest).map fun (fields, rest) => (.table (closeFields fields), rest)
    | text, _ =>
      if text.head? = some '"' ∨ text.head? = some '\'' then
        (readQuoted fuel text).map fun (s, rest) => (.text (.ofList s), rest)
      else readPlain text

/-- The items of an array, up to its closing bracket. -/
def readItems : Nat → Nat → List Char → Option (List Setting × List Char)
  | 0, _, _ => none
  | fuel + 1, levels, text =>
    match skipLines text with
    | ']' :: rest => some ([], rest)
    | text => do
      let (item, rest) ← readValue fuel levels text
      match skipLines rest with
      | ',' :: rest =>
        (readItems fuel levels rest).map fun (items, rest) => (item :: items, rest)
      | ']' :: rest => return ([item], rest)
      | _ => none

/-- The fields of an inline table, up to its closing brace, added to those before them. -/
def readFields : Nat → Nat → Nodes → List Char → Option (Nodes × List Char)
  | 0, _, _, _ => none
  | fuel + 1, levels, fields, text =>
    match skipLines text with
    | '\x7d' :: rest => some (fields, rest)
    | text => do
      let (path, rest) ← readPath text
      let rest ← Text.expect '=' (skipLines rest)
      let (value, rest) ← readValue fuel levels (skipLines rest)
      let fields ← addValue path value fields
      match skipLines rest with
      | ',' :: rest => readFields fuel levels fields rest
      | '\x7d' :: rest => return (fields, rest)
      | _ => none

end

end ParcelPricing.Toml
