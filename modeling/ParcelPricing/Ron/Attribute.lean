import ParcelPricing.Ron.Name
import ParcelPricing.Ron.Quoted

namespace ParcelPricing.Ron
open Text

/-- Marks one after another, with blanks between them. -/
def skipMarks : List Char → List Char → Option (List Char)
  | [], text => some text
  | mark :: marks, text => do skipMarks marks (← expect mark (← skipSpace text))

def knownExtensions : List (List Char) :=
  ["unwrap_newtypes", "implicit_some", "unwrap_variant_newtypes", "explicit_struct_names"].map
    String.toList

/-- Names of extensions up to a closing bracket. The first argument bounds the work. -/
def readExtensions : Nat → List Char → Option (List (List Char) × List Char)
  | 0, _ => none
  | fuel + 1, text => do
    let (name, rest) ← readName (← skipSpace text)
    guard (knownExtensions.contains name)
    let rest ← skipSpace rest
    let comma := rest.head? = some ','
    let rest ← skipSpace (if comma then rest.tail else rest)
    if rest.head? = some ')' then return ([name], rest)
    guard comma
    (readExtensions fuel rest).map fun (names, rest) => (name :: names, rest)

/-- A string of either kind. -/
def readText : List Char → Option (String × List Char)
  | '"' :: text => readString text
  | 'r' :: text => readRaw text
  | _ => none

/-- The extensions of one attribute, after its opening bracket. -/
def readAttribute (text : List Char) : Option (List (List Char) × List Char) := do
  let (name, rest) ← readName (← skipSpace text)
  if name = "enable".toList then
    let (extensions, rest) ← readExtensions rest.length.succ (← skipMarks ['('] rest)
    return (extensions, ← skipMarks [')', ']'] rest)
  guard (name = "type".toList ∨ name = "schema".toList)
  let (_, rest) ← readText (← skipSpace (← skipMarks ['='] rest))
  return ([], ← skipMarks [']'] rest)

/-- The extensions of all attributes, and the text after them. The first argument bounds the work.
-/
def readAttributes : Nat → List Char → Option (List (List Char) × List Char)
  | 0, _ => none
  | fuel + 1, text => do
    let text ← skipSpace text
    if text.head? ≠ some '#' then return ([], text)
    let (extensions, rest) ← readAttribute (← skipMarks ['#', '!', '['] text)
    let (more, rest) ← readAttributes fuel rest
    return (extensions ++ more, rest)

end ParcelPricing.Ron
