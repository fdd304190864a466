import ParcelPricing.Toml.Value

/-! TOML documents: headers, and keys with their values, one to a line. -/
namespace ParcelPricing.Toml

/-- The lines of a document, with the tables read so far and the path of the last header. The first
argument bounds the work. -/
def readLines : Nat → Nodes → List String → List Char → Option Nodes
  | 0, _, _, _ => none
  | fuel + 1, fields, header, text =>
    match skipLines text with
    | [] => some fields
    | '[' :: '[' :: rest => do
      let (path, rest) ← readPath rest
      let rest ← endLine (← Text.expect ']' (← Text.expect ']' rest))
      readLines fuel (← openSeries path fields) path rest
    | '[' :: rest => do
      let (path, rest) ← readPath rest
      let rest ← endLine (← Text.expect ']' rest)
      readLines fuel (← openTable path fields) path rest
    | text => do
      let (path, rest) ← readPath text
      let rest ← Text.expect '=' rest
      let (value, rest) ← readValue (2 * fuel + 2) mostLevels (skipSpace rest)
      let rest ← endLine rest
      readLines fuel (← descend false (addValue path value) header fields) header rest

/-- A mark of the byte order may stand before the document. -/
def withoutMark : List Char → List Char
  | '\uFEFF' :: text => text
  | text => text

def read? (text : List Char) : Option Fields := do
  guard (isPermitted text)
  let fields ← readLines text.length.succ [] [] (withoutMark text)
  return closeFields fields

end ParcelPricing.Toml
