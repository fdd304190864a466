import ParcelPricing.Yaml.Scalar
import ParcelPricing.Yaml.Token

namespace ParcelPricing.Yaml

inductive Node where
  | scalar (value : Scalar)
  | tree (value : Setting)

namespace Node

def null : Node := .scalar .null

def setting? : Node → Option Setting
  | scalar value => value.setting?
  | tree value => some value

/-- Lists and tables are no keys, nor is nothing. -/
def key? : Node → Option (Scalar × String)
  | scalar value => value.key?.map (value, ·)
  | tree _ => none

end Node

/-- Tokens that are still to be read, with what is known from those before. -/
structure Reading where
  tokens : List Token
  /-- nodes by their anchors, the last one first -/
  anchors : List (List Char × Node) := []
  /-- what the handles of tags stand for -/
  handles : List (List Char × List Char) := []

namespace Reading

def tail (r : Reading) : Reading := { r with tokens := r.tokens.tail }

/-- Gives a node its anchor, if there is one. -/
def bind (r : Reading) (anchor : Option (List Char)) (node : Node) : Reading :=
  match anchor with
  | some name => { r with anchors := (name, node) :: r.anchors }
  | none => r

/-- The full name of a tag. A named handle must be known. -/
def tagOf? (r : Reading) (handle suffix : List Char) : Option (List Char × List Char) :=
  match r.handles.lookup handle with
  | some target => some (target, suffix)
  | none =>
    if handle = ['!', '!'] then some (Scalar.coreTags, suffix)
    else if 2 ≤ handle.length then none
    else some (handle, suffix)

/-- An anchor and a tag in either order, both of which may be left out. -/
def readProperties (r : Reading) :
    Option (Option (List Char) × Option (List Char × List Char) × Reading) :=
  match r.tokens with
  | .anchor _ name :: .tag _ handle suffix :: _ | .tag _ handle suffix :: .anchor _ name :: _ =>
    (r.tagOf? handle suffix).map fun tag => (some name, some tag, r.tail.tail)
  | .anchor _ name :: _ => some (some name, none, r.tail)
  | .tag _ handle suffix :: _ => (r.tagOf? handle suffix).map fun tag => (none, some tag, r.tail)
  | _ => some (none, none, r)

/-- The scalar of a text. -/
def scalarOf (plain : Bool) (tag : Option (List Char × List Char)) (text : List Char) : Scalar :=
  if !plain then .string text
  else match tag with
    | some (handle, suffix) => .ofTagged handle suffix text
    | none => .ofPlain text

end Reading

/-- A table that is read: its keys as they were given, and its fields. -/
structure Table where
  keys : List Scalar := []
  fields : Fields := []

def Table.add? (t : Table) (key value : Node) : Option Table := do
  let (scalar, name) ← key.key?
  guard (!t.keys.contains scalar)
  return { keys := scalar :: t.keys, fields := t.fields.put name (← value.setting?) }

namespace Token

def isDash : Token → Bool
  | dash => true
  | _ => false

/-- Tokens before which an item of a list without brackets is left out. -/
def endsItem : Token → Bool
  | dash | blockEnd => true
  | _ => false

/-- Tokens before which a key or a value of a table without brackets is left out. -/
def endsField : Token → Bool
  | key | value | blockEnd => true
  | _ => false

def endsFlow : Token → Bool
  | comma | flowTableEnd | flowListEnd => true
  | _ => false

end Token

namespace Reading

mutual

/-- A node. What is allowed is a list or a table in a block, and a list that is not indented. The
first argument bounds the work and is spent by one at every call. -/
def readNode : Nat → Bool → Bool → Reading → Option (Node × Reading)
  | 0, _, _, _ => none
  | fuel + 1, block, unindented, r =>
    match r.tokens with
    | .alias name :: _ => (r.anchors.lookup name).map (·, r.tail)
    | _ => do
      let (anchor, tag, r) ← r.readProperties
      let begun := r.bind anchor .null
      let (node, rest) ← match r.tokens with
        | .text plain text :: _ => some (.scalar (scalarOf plain tag text), begun.tail)
        | .flowList :: _ => readFlowItems fuel true [] begun.tail
        | .flowTable :: _ => readFlowFields fuel true {} begun.tail
        | .blockList :: _ => if block then readItems fuel false [] begun.tail else none
        | .blockTable :: _ => if block then readFields fuel {} begun.tail else none
        | tokens =>
          if unindented && tokens.head?.any Token.isDash then readItems fuel true [] begun
          else if anchor.isSome || tag.isSome then some (.scalar (scalarOf true tag []), begun)
          else none
      return (node, rest.bind anchor node)

/-- Items behind hyphens. Those that are not indented end before any other token. -/
def readItems : Nat → Bool → List Setting → Reading → Option (Node × Reading)
  | 0, _, _, _ => none
  | fuel + 1, unindented, items, r =>
    match r.tokens with
    | .dash :: rest => do
      let empty := rest.head?.any fun t => t.endsItem || unindented && t.endsField
      let (item, r) ← if empty then pure (.null, r.tail) else readNode fuel true false r.tail
      readItems fuel unindented ((← item.setting?) :: items) r
    | .blockEnd :: _ => some (.tree (.list items.reverse), if unindented then r else r.tail)
    | _ => if unindented then some (.tree (.list items.reverse), r) else none

/-- Fields of a table without brackets. -/
def readFields : Nat → Table → Reading → Option (Node × Reading)
  | 0, _, _ => none
  | fuel + 1, table, r =>
    match r.tokens with
    | .blockEnd :: _ => some (.tree (.table table.fields), r.tail)
    | .key :: rest => do
      let (key, r) ← if rest.head?.any Token.endsField then pure (.null, r.tail)
        else readNode fuel true true r.tail
      let (value, r) ← readValue fuel r
      readFields fuel (← table.add? key value) r
    | _ => none

/-- The value of a field without brackets, nothing if there is no colon. -/
def readValue : Nat → Reading → Option (Node × Reading)
  | 0, _ => none
  | fuel + 1, r =>
    match r.tokens with
    | .value :: rest =>
      if rest.head?.any Token.endsField then some (.null, r.tail)
      else readNode fuel true true r.tail
    | _ => some (.null, r)

/-- Items in brackets. An item with a key is a table of one field. -/
def readFlowItems : Nat → Bool → List Setting → Reading → Option (Node × Reading)
  | 0, _, _, _ => none
  | fuel + 1, first, items, r => do
    let r ← match first, r.tokens with
      | false, .comma :: _ => some r.tail
      | false, .flowListEnd :: _ | true, _ => some r
      | _, _ => none
    match r.tokens with
    | .flowListEnd :: _ => return (.tree (.list items.reverse), r.tail)
    | .key :: _ => do
      let (key, r) ← readNode fuel false false r.tail
      let (value, r) ← readFlowValue fuel r
      let table ← ({} : Table).add? key value
      readFlowItems fuel false (.table table.fields :: items) r
    | _ => do
      let (item, r) ← readNode fuel false false r
      readFlowItems fuel false ((← item.setting?) :: items) r

/-- Fields in braces. A key without a mark of its own has no value. -/
def readFlowFields : Nat → Bool → Table → Reading → Option (Node × Reading)
  | 0, _, _, _ => none
  | fuel + 1, first, table, r => do
    let r ← match first, r.tokens with
      | false, .comma :: _ => some r.tail
      | false, .flowTableEnd :: _ | true, _ => some r
      | _, _ => none
    match r.tokens with
    | .flowTableEnd :: _ => return (.tree (.table table.fields), r.tail)
    | .key :: _ => do
      let (key, r) ← readNode fuel false false r.tail
      let (value, r) ← readFlowValue fuel r
      readFlowFields fuel false (← table.add? key value) r
    | _ => do
      let (key, r) ← readNode fuel false false r
      readFlowFields fuel false (← table.add? key .null) r

/-- The value of a field in brackets, nothing if there is no colon or nothing behind it. -/
def readFlowValue : Nat → Reading → Option (Node × Reading)
  | 0, _ => none
  | fuel + 1, r =>
    match r.tokens with
    | .value :: rest =>
      if rest.head?.any Token.endsFlow then some (.null, r.tail)
      else readNode fuel false false r.tail
    | _ => some (.null, r)

end

end Reading

end ParcelPricing.Yaml
