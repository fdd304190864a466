import ParcelPricing.Log.Pattern.CharClass
import ParcelPricing.Text.Alphabetic

/-! Which texts are patterns: regular expressions of at most 250 levels. -/
namespace ParcelPricing.LogPattern
open Text

def mostLevels : Nat := 250

/-- A group that is read. -/
structure Group where
  /-- how its outside is read -/
  outside : Mode := {}
  /-- the levels of each alternative before the last -/
  alternatives : List Nat := []
  /-- the levels of each part of the last alternative, latest first; a change of modes has none -/
  parts : List (Option Nat) := []

namespace Group

def add (g : Group) (part : Option Nat) : Group := { g with parts := part :: g.parts }

def sequence (g : Group) : Nat := levelsOf (g.parts.map (·.getD 0))

/-- Begins the next alternative. -/
def split (g : Group) : Group :=
  { g with alternatives := g.sequence :: g.alternatives, parts := [] }

def levels (g : Group) : Nat := levelsOf (g.sequence :: g.alternatives)

/-- Repeats the last part. A change of modes cannot be repeated. -/
def again? (g : Group) : Option Group :=
  match g.parts with
  | some n :: parts => some { g with parts := some (n + 1) :: parts }
  | _ => none

end Group

/-- What opens behind a bracket: a group, or a change of modes with nothing inside. -/
inductive Opening where
  | group (inside : Mode) (name : Option (List Char))
  | change (mode : Mode)

namespace Opening

def isNameStart (c : Char) : Bool := c = '_' || isAlphabetic c

def isNameChar (c : Char) : Bool := isAlphanumeric c || "_.[]".toList.contains c

def readName (m : Mode) (text : List Char) : Option (Opening × List Char) :=
  let name := text.takeWhile (· ≠ '>')
  match text.drop name.length with
  | [] => none
  | _ :: rest =>
    if name.head?.any isNameStart ∧ name.all isNameChar then some (group m name, rest) else none

def readChange (m : Mode) (text : List Char) : Option (Opening × List Char) := do
  let change := text.takeWhile fun c => c ≠ ':' && c ≠ ')'
  let inside ← m.change? change
  match text.drop change.length with
  | ':' :: rest => return (group inside none, rest)
  | ')' :: rest => if change = [] then none else return (Opening.change inside, rest)
  | _ => none

/-- What follows an opening bracket. There is no looking ahead or behind. -/
def read (m : Mode) : List Char → Option (Opening × List Char)
  | '?' :: '=' :: _ | '?' :: '!' :: _ | '?' :: '<' :: '=' :: _ | '?' :: '<' :: '!' :: _ => none
  | '?' :: 'P' :: '<' :: text | '?' :: '<' :: text => readName m text
  | '?' :: text => readChange m text
  | text => some (group m none, text)

end Opening

/-- Names of groups that are taken with one more, which must be new. -/
def takeName (taken : List (List Char)) : Option (List Char) → Option (List (List Char))
  | none => some taken
  | some name => if taken.contains name then none else some (name :: taken)

/-- A single item outside of classes, and what follows it. -/
def readItem (m : Mode) : List Char → Option (Item × List Char)
  | [] => none
  | '\\' :: text => Item.readEscape m text
  | '.' :: text => some (.anyChar, text)
  | c :: text => some (if c = '^' || c = '$' then .edge else .literal c, text)

/-- A question mark right after a repetition makes it a shy one. -/
def skipShy : List Char → List Char
  | '?' :: text => text
  | text => text

/-- The levels of a pattern of which a group is read so far, inside of others. The first argument
bounds the work. -/
def readFrom : Nat → Mode → List (List Char) → Group → List Group → List Char → Option Nat
  | 0, _, _, _, _, _ => none
  | fuel + 1, m, taken, g, outer, text =>
    match m.skip text with
    | [] => if outer.isEmpty then some g.levels else none
    | '(' :: rest => do
      match ← Opening.read m (m.skip rest) with
      | (.group inside name, rest) =>
        readFrom fuel inside (← takeName taken name) { outside := m } (g :: outer) rest
      | (.change m, rest) => readFrom fuel m taken (g.add none) outer rest
    | ')' :: rest =>
      match outer with
      | [] => none
      | around :: outer =>
        readFrom fuel g.outside taken (around.add (some (1 + g.levels))) outer rest
    | '|' :: rest => readFrom fuel m taken g.split outer rest
    | '[' :: rest => do
      let (levels, rest) ← readClass m rest
      readFrom fuel m taken (g.add (some levels)) outer rest
    | '\x7b' :: _ => none
    | c :: rest =>
      if c = '*' || c = '+' || c = '?' then do
        readFrom fuel m taken (← g.again?) outer (skipShy rest)
      else do
        let (item, rest) ← readItem m (c :: rest)
        guard (item.isAllowed m)
        readFrom fuel m taken (g.add (some 0)) outer rest

def isPattern (text : List Char) : Bool :=
  (readFrom text.length.succ {} [] {} [] text).any (· ≤ mostLevels)

end ParcelPricing.LogPattern
