import ParcelPricing.Decimal.Reader
import ParcelPricing.Settings.Setting

/-! Keys as paths, with places in brackets that may count from the end. -/
namespace ParcelPricing

inductive KeyStep where
  | field (name : String)
  | item (place : Int)
deriving DecidableEq

abbrev KeyPath := List KeyStep

namespace KeyPath
open Decimal Text

def isWordChar (c : Char) : Bool := c.isAlphanum || c = '-' || c = '_'

def isSpace (c : Char) : Bool := c = ' ' || c = '\t'

/-- A word and what follows it. -/
def readWord? (text : List Char) : Option (KeyStep × List Char) :=
  let word := text.takeWhile isWordChar
  if word = [] then none else some (.field (.ofList word), text.drop word.length)

/-- A place without its opening bracket, and what follows it. A place fits 64 bits. -/
def readPlace? (text : List Char) : Option (KeyStep × List Char) := do
  let text := text.dropWhile isSpace
  let negative := text.head? = some '-'
  let text := if negative then text.tail else text
  let digits := leadingDigits text
  guard (digits ≠ [])
  let place : Int := if negative then -(value digits : Int) else value digits
  guard (isWord place)
  let rest ← expect ']' ((text.drop digits.length).dropWhile isSpace)
  return (.item place, rest)

/-- The steps behind the first word. The first argument bounds the work. -/
def readSteps? : Nat → List Char → Option KeyPath
  | _, [] => some []
  | fuel + 1, '.' :: text => do
    let (step, rest) ← readWord? text
    return step :: (← readSteps? fuel rest)
  | fuel + 1, '[' :: text => do
    let (step, rest) ← readPlace? text
    return step :: (← readSteps? fuel rest)
  | _, _ => none

def read? (text : List Char) : Option KeyPath := do
  let (step, rest) ← readWord? text
  return step :: (← readSteps? rest.length rest)

/-- The path that a key spells. A key that spells none stands for itself. -/
def ofKey (key : String) : KeyPath := (read? key.toList).getD [.field key]

end KeyPath

namespace Setting

/-- Changes one item of a list, which grows at either end to hold it. -/
def changeItem (place : Int) (f : Setting → Setting) (items : List Setting) : List Setting :=
  match place with
  | .ofNat n => (items ++ List.replicate (n + 1 - items.length) absent).modify n f
  | .negSucc n =>
    let items := List.replicate (n + 1 - items.length) absent ++ items
    items.modify (items.length - (n + 1)) f

/-- Changes what a path leads to. What stands in the way of a step gives way. -/
def change (f : Setting → Setting) : KeyPath → Setting → Setting
  | [], s => f s
  | .field name :: path, s => table (s.fields.change name (change f path))
  | .item place :: path, s => list (changeItem place (change f path) s.items)

/-- Lays the fields of one source over what is set so far. -/
def addSource (base : Setting) (source : Fields) : Setting :=
  source.foldl (fun base field => change (overlay · field.2) (KeyPath.ofKey field.1) base) base

end Setting

end ParcelPricing
