import ParcelPricing.Log.Pattern.Item

namespace ParcelPricing.LogPattern

def classNames : List (List Char) :=
  ["alnum", "alpha", "ascii", "blank", "cntrl", "digit", "graph", "lower", "print", "punct",
    "space", "upper", "word", "xdigit"].map String.toList

/-- A named class such as `[:alpha:]` after its opening bracket: whether it is negated, and what
follows it. -/
def readClassName : List Char → Option (Bool × List Char)
  | ':' :: text =>
    let negated := text.head? = some '^'
    let text := if negated then text.tail else text
    let name := text.takeWhile (· ≠ ':')
    match text.drop name.length with
    | ':' :: ']' :: rest => if classNames.contains name then some (negated, rest) else none
    | _ => none
  | _ => none

/-- The rest of a class after its opening bracket and its negation. Bytes cannot be negated. -/
def openClass (m : Mode) (text : List Char) : Option (List Char) :=
  match m.skip text with
  | '^' :: rest => if m.wide then some rest else none
  | rest => some rest

/-- An item as it is written in a class. -/
def readMember (m : Mode) : List Char → Option (Item × List Char)
  | [] => none
  | '\\' :: text => Item.readEscape m text
  | c :: text => some (.literal c, text)

/-- What follows an item or a range from one character up to another. A hyphen before another hyphen
or the closing bracket makes no range. -/
def skipRange (m : Mode) (text : List Char) : Option (List Char) := do
  let (low, rest) ← readMember m text
  guard (low.isMember m)
  match m.skip rest with
  | '-' :: rest =>
    if m.peek rest = some ']' ∨ m.peek rest = some '-' then return '-' :: rest
    let (high, rest) ← readMember m (m.skip rest)
    guard (high.isMember m ∧ (← low.char?) ≤ (← high.char?))
    return rest
  | rest => return rest

/-- The levels of a list of parts: those of its deepest part, and one more if there are several. -/
def levelsOf : List Nat → Nat
  | [] => 0
  | [n] => n
  | parts => 1 + parts.foldl max 0

/-- A class that is read: the levels of what comes before the last mark, and of each item after. -/
structure CharClass where
  before : Option Nat := none
  items : List Nat := []

namespace CharClass

def levels (c : CharClass) : Nat :=
  match c.before with
  | some n => 1 + max n (levelsOf c.items)
  | none => levelsOf c.items

def add (c : CharClass) (levels : Nat) : CharClass := { c with items := levels :: c.items }

/-- Begins the next list of a class. -/
def join (c : CharClass) : CharClass := ⟨some c.levels, []⟩

def isMark (c : Char) : Bool := c = '&' || c = '-' || c = '~'

/-- The levels of a class and what follows it. Hyphens that come first are items, and so is a
closing bracket that comes first of all. The first argument bounds the work. -/
def read : Nat → Mode → Bool → CharClass → List Char → Option (Nat × List Char)
  | 0, _, _, _, _ => none
  | fuel + 1, m, first, c, text =>
    match m.skip text with
    | [] => none
    | '[' :: rest =>
      match readClassName rest with
      | some (negated, rest) =>
        if if m.wide then !m.ignoresCase else !negated then read fuel m false (c.add 0) rest
        else none
      | none => do
        let (levels, rest) ← read fuel m true {} (← openClass m rest)
        read fuel m false (c.add levels) rest
    | d :: rest =>
      if first && (d = '-' || d = ']' && c.items.isEmpty) then
        if (Item.literal d).isMember m then read fuel m (d = '-') (c.add 0) rest else none
      else if d = ']' then some (1 + c.levels, rest)
      else if isMark d && rest.head? = some d then read fuel m false c.join rest.tail
      else do read fuel m false (c.add 0) (← skipRange m (d :: rest))

end CharClass

/-- A class after its opening bracket: its levels, and what follows it. -/
def readClass (m : Mode) (text : List Char) : Option (Nat × List Char) := do
  CharClass.read text.length.succ m true {} (← openClass m text)

end ParcelPricing.LogPattern
