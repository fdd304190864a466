import ParcelPricing.Yaml.Token

/-! The layout of a YAML text while its tokens are read. -/
namespace ParcelPricing.Yaml

/-- A place where a key may have begun. -/
structure KeyStart where
  /-- the number of tokens before it -/
  place : Nat
  line : Nat
  index : Nat
  column : Nat
  /-- whether it has to be one by its indentation -/
  required : Bool

/-- An indentation that another one lies inside of. -/
structure Indent where
  column : Int
  /-- whether the inner one belongs to a list or a table -/
  block : Bool

structure Layout where
  cursor : Cursor
  /-- the tokens so far, the last one first -/
  tokens : List Token := []
  /-- whether a key may begin here -/
  keyAllowed : Bool := true
  /-- where a key may have begun: in the innermost brackets first, and outside of all last -/
  keys : List (Option KeyStart) := [none]
  indent : Int := -1
  indents : List Indent := []
  /-- where a colon needs no blank after it -/
  adjacent : Option Nat := none
  /-- whether a table in brackets has begun -/
  inTable : Bool := false
  /-- for each list in brackets, whether one of its items is a table without brackets so far -/
  implicit : List Bool := []

namespace Layout

def ofText (text : List Char) : Layout where
  cursor := .ofText text

/-- Whether this is inside of brackets. -/
def isFlow (s : Layout) : Bool := 1 < s.keys.length

def push (s : Layout) (t : Token) : Layout := { s with tokens := t :: s.tokens }

/-- Puts a token in behind so many others. -/
def insertAt (s : Layout) (place : Nat) (t : Token) : Layout :=
  { s with tokens := s.tokens.insertIdx (s.tokens.length - place) t }

def moveTo (s : Layout) (c : Cursor) : Layout := { s with cursor := c }

/-- Enters an indentation that need not become one of a list or a table. -/
def indentByOne (s : Layout) : Layout :=
  if !s.isFlow && s.indents.head?.any Indent.block then
    { s with indents := ⟨s.indent, false⟩ :: s.indents, indent := s.indent + 1 }
  else s

/-- Leaves an indentation that did not become one of a list or a table. -/
def leaveLoose (s : Layout) : Layout :=
  match s.indents with
  | ⟨column, false⟩ :: rest => { s with indent := column, indents := rest }
  | _ => s

/-- Leaves all of those. -/
def leaveAllLoose (s : Layout) : Layout :=
  let loose := s.indents.takeWhile (!·.block)
  match loose.getLast? with
  | some outer => { s with indent := outer.column, indents := s.indents.drop loose.length }
  | none => s

/-- Enters the indentation of a list or a table, which a token at a place marks. -/
def enter (s : Layout) (column : Nat) (place : Option Nat) (t : Token) : Layout :=
  if s.isFlow then s
  else
    let s := if s.indent ≤ (column : Int) then s.leaveLoose else s
    if s.indent < (column : Int) then
      let s := { s with indents := ⟨s.indent, true⟩ :: s.indents, indent := column }
      match place with
      | some place => s.insertAt place t
      | none => s.push t
    else s

/-- Leaves the indentations of some lists and tables that are deeper than a column. -/
def leaveIndents (column : Int) : List Indent → Layout → Layout
  | [], s => s
  | ⟨outer, block⟩ :: rest, s =>
    if column < s.indent then
      let s := { s with indent := outer, indents := rest }
      leaveIndents column rest (if block then s.push .blockEnd else s)
    else s

def leave (s : Layout) (column : Int) : Layout :=
  if s.isFlow then s else leaveIndents column s.indents s

/-- Takes note that a key may begin here. -/
def beginKey (s : Layout) : Layout :=
  if s.keyAllowed then
    let c := s.cursor
    let required := !s.isFlow && s.indent = (c.column : Int) && s.indents.head?.any Indent.block
    let start : KeyStart := ⟨s.tokens.length, c.line, c.index, c.column, required⟩
    { s with keys := some start :: s.keys.tail }
  else s

/-- Gives up the last place where a key may have begun. -/
def dropKey? (s : Layout) : Option Layout :=
  match s.keys with
  | some key :: rest => if key.required then none else some { s with keys := none :: rest }
  | _ => some s

/-- So far may a colon be from where its key began. -/
def mostKeyChars : Nat := 1024

/-- Gives up a place on an earlier line, or one that is too far away. -/
def dropStaleKey? (s : Layout) : Option Layout :=
  match s.isFlow, s.keys with
  | false, some key :: _ =>
    if key.line < s.cursor.line ∨ key.index + mostKeyChars < s.cursor.index then s.dropKey?
    else some s
  | _, _ => some s

/-- Ends the table without brackets that an item of a list may be. -/
def endImplicit (s : Layout) : Layout :=
  match s.implicit with
  | true :: rest => { s with inTable := false, implicit := false :: rest }.push .flowTableEnd
  | _ => s

end Layout

end ParcelPricing.Yaml
