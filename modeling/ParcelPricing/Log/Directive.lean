import ParcelPricing.Log.Field
import ParcelPricing.Log.Level
import ParcelPricing.Text.Blank
import ParcelPricing.Text.Bytes

/-! Directives of a log filter, such as `target[span]=level`. -/
namespace ParcelPricing
open Text

structure LogDirective where
  target : Option (List Char)
  span : Option (List Char)
  field : Option LogField
  level : LogLevel

namespace LogDirective

def ofLevel (level : LogLevel) : LogDirective := ⟨none, none, none, level⟩

/-- Whether a directive asks about spans. -/
def isSpanned (d : LogDirective) : Bool := d.span.isSome || d.field.isSome

/-- Whether it can be decided without knowing the span at hand. -/
def isGeneral (d : LogDirective) : Bool := d.span.isNone && d.field.all (·.value.isNone)

def canBegin (c : Char) : Bool :=
  isAlphanumeric c || c = '-' || c = ':' || c = '_' || c = '['

/-- Why a directive cannot be read. -/
inductive Fault where
  | unreadable
  /-- a part would begin or end inside of a character -/
  | cutCharacter
deriving DecidableEq

def ofOption {α : Type} (a? : Option α) : Except Fault α :=
  match a? with
  | some a => .ok a
  | none => .error .unreadable

/-- The bytes of a text from a place to another one. -/
def part (start stop : Nat) (whole : List Char) : Except Fault (List Char) :=
  match between? start stop whole with
  | some part => .ok part
  | none => .error .cutCharacter

/-- The level after an equals sign, which may be left out together with it. -/
def readLevel (whole : List Char) (place : Nat) : List Char → Except Fault LogLevel
  | [] => .ok .trace
  | '=' :: _ => do
    let level ← part (place + 1) (byteCount whole) whole
    if level = [] then return .trace else ofOption (LogLevel.read? level)
  | _ => .error .unreadable

/-- A span without its opening bracket: its name, its field, and where the level begins. An empty
name counts only without a field. -/
def readSpan (whole : List Char) (place : Nat) (inner : List Char) :
    Except Fault (Option (List Char) × Option LogField × Nat × List Char) := do
  let name := inner.takeWhile fun c => c ≠ ']' && c ≠ '\x7b'
  let stop := place + byteCount name
  match inner.drop name.length with
  | ']' :: rest => return (some (← part place stop whole), none, stop + 1, rest)
  | '\x7b' :: inner =>
    let span ← part place stop whole
    let field := inner.takeWhile (· ≠ '\x7d')
    let fieldStop := stop + 1 + byteCount field
    match inner.drop field.length with
    | '\x7d' :: rest =>
      let field ← part (stop + 1) fieldStop whole
      if field = [] then throw .unreadable
      let field ← ofOption (LogField.read? field)
      match rest with
      | ']' :: rest =>
        return (if span = [] then none else some span, some field, fieldStop + 2, rest)
      | _ => throw .unreadable
    | _ => throw .unreadable
  | _ => throw .unreadable

/-- A level, or a target with an optional span and level. The marks are looked for in the trimmed
text, but the parts are cut out of the whole one. -/
def read (whole : List Char) : Except Fault LogDirective := do
  let text := trim whole
  if !text.head?.any canBegin then throw .unreadable
  let name := text.takeWhile fun c => c ≠ '=' && c ≠ '['
  let place := byteCount name
  match text.drop name.length with
  | [] =>
    match LogLevel.read? whole with
    | some level => return ofLevel level
    | none => return ⟨some whole, none, none, .trace⟩
  | mark :: rest =>
    let target ← if name = [] then pure none else some <$> part 0 place whole
    if mark = '[' then
      let (span, field, place, rest) ← readSpan whole (place + 1) rest
      return ⟨target, span, field, ← readLevel whole place rest⟩
    else return ⟨target, none, none, ← readLevel whole place (mark :: rest)⟩

def spanChars (d : LogDirective) : List Char :=
  let field := match d.field with
    | some field => '\x7b' :: field.chars ++ ['\x7d']
    | none => []
  if d.isSpanned then '[' :: d.span.getD [] ++ field ++ [']'] else []

def chars (d : LogDirective) : List Char :=
  let what := d.target.getD [] ++ d.spanChars
  if d.target.isSome || d.isSpanned then what ++ '=' :: d.level.name else d.level.name

/-- The less specific directive comes before the more specific one: first by the length of the
target, then by what is asked of spans. The level does not count. -/
def order (d e : LogDirective) : Ordering :=
  let lengthOrder (a b : List Char) := compareOfLessAndEq (byteCount a) (byteCount b)
  (optionOrder lengthOrder d.target e.target).then <|
    (optionOrder (fun _ _ => .eq) d.span e.span).then <|
    (optionOrder (fun _ _ => .eq) d.field e.field).then <|
    (optionOrder textOrder d.target e.target).then <|
    (optionOrder textOrder d.span e.span).then (optionOrder LogField.order d.field e.field)

end LogDirective

end ParcelPricing
