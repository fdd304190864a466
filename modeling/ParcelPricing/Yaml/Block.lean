import ParcelPricing.Yaml.Cursor

/-! Texts of YAML in a block, behind a bar or an angle. -/
namespace ParcelPricing.Yaml.Block

/-- What becomes of the line ends after the last line. -/
inductive Tail where
  | one
  | none
  | all
deriving DecidableEq

def tailOf? : Char → Option Tail
  | '+' => some .all
  | '-' => some .none
  | _ => Option.none

/-- A number of columns, which is not zero. -/
def depthOf? (c : Char) : Option Nat := if c.isDigit then some (c.toNat - '0'.toNat) else none

/-- The marks after a bar or an angle: a tail and a depth in either order. A depth that is not given
is zero. -/
def readHeader (c : Cursor) : Option (Tail × Nat × Cursor) := do
  let (tail, depth, c) ← match tailOf? c.head, depthOf? c.head with
    | some tail, _ => match depthOf? c.next with
      | some n => if n = 0 then Option.none else some (tail, n, c.skip 2)
      | none => some (tail, 0, c.skip 1)
    | none, some n => if n = 0 then Option.none else match tailOf? c.next with
      | some tail => some (tail, n, c.skip 2)
      | none => some (.one, n, c.skip 1)
    | none, none => some (.one, 0, c)
  let (_, c) ← c.skipToLineEnd true
  if isLineEnd c.head then return (tail, depth, c) else Option.none

/-- The number of line ends on empty lines from here on, and the deepest column on them. Spaces
count up to a column, if one is given. The first argument bounds the work. -/
def skipEmpty (stop : Option Nat) : Nat → Cursor → Nat × Nat × Cursor
  | 0, c => (0, 0, c)
  | fuel + 1, c =>
    let spaces := (c.text.takeWhile (· = ' ')).length
    let c := c.pass (match stop with
      | some column => min spaces (column - c.column)
      | none => spaces)
    if isBreak c.head then
      let (breaks, deepest, rest) := skipEmpty stop fuel c.skipBreak
      (breaks + 1, max c.column deepest, rest)
    else (0, c.column, c)

def breaksText (n : Nat) : List Char := List.replicate n '\n'

/-- What stands between two lines: the end of the first and those of empty lines. Behind an angle a
line end between lines without blanks in front is a space, or nothing before empty lines. -/
def joint (folds : Bool) (breaks : Nat) : List Char :=
  if !folds then breaksText (breaks + 1) else if breaks = 0 then [' '] else breaksText breaks

/-- The lines at a column with the line ends and empty lines before each, then those at the end. The
first argument bounds the work. -/
def readLines (literal : Bool) (indent : Nat) :
    Nat → Option Bool → Nat → Cursor → List Char × Bool × Nat × Cursor
  | 0, before, breaks, c => ([], before.isSome, breaks, c)
  | fuel + 1, before, breaks, c =>
    if c.column ≠ indent || c.head = ended || indent = 0 && c.isDocumentMark then
      ([], before.isSome, breaks, c)
    else
      let blank := isBlank c.head
      let gap := match before with
        | some blankBefore => joint (!literal && !blankBefore && !blank) breaks
        | none => breaksText breaks
      let (line, c) := c.readWhile fun d => !isLineEnd d
      if c.head = ended then (gap ++ line, false, 0, c)
      else
        let (breaks, _, c) := skipEmpty (some indent) c.text.length.succ c.skipBreak
        let (text, rest) := readLines literal indent fuel (some blank) breaks c
        (gap ++ line ++ text, rest)

/-- A block without a line, at the end of a text. -/
def emptyText (tail : Tail) (hasBreak : Bool) (breaks : Nat) : List Char :=
  if !hasBreak then [] else match tail with
    | .none => []
    | .one => ['\n']
    | .all => breaksText (max breaks 1)

/-- A text after its bar or angle, inside of an indentation. -/
def read (literal : Bool) (indent : Int) (c : Cursor) : Option (List Char × Cursor) := do
  let line := c.line
  let (tail, depth, c) ← readHeader c
  let c := c.skipBreak
  if c.head = '\t' then Option.none
  let around := (indent + 1).toNat
  let (breaks, deepest, first) :=
    skipEmpty (if depth = 0 then none else some (depth + indent.toNat)) c.text.length.succ c
  let column :=
    if depth ≠ 0 then depth + indent.toNat
    else max (max deepest around) (if 0 < indent then 1 else 0)
  if first.head = ended then return (emptyText tail (first.line ≠ line) breaks, first)
  if first.column < column && indent < (first.column : Int) then Option.none
  let (text, hasEnd, breaks, c) :=
    readLines literal column first.text.length.succ none breaks first
  let ending := if tail = .none then [] else
    (if hasEnd then ['\n'] else []) ++
      if c.head = ended && max column 1 ≤ c.column then ['\n'] else []
  return (text ++ ending ++ if tail = .all then breaksText breaks else [], c)

end ParcelPricing.Yaml.Block
