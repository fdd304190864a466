import ParcelPricing.Yaml.Block
import ParcelPricing.Yaml.Layout
import ParcelPricing.Yaml.Plain

/-! The tokens of a YAML text, one at each step. -/
namespace ParcelPricing.Yaml.Layout

/-- Goes on to the next token. Outside of brackets a key may begin on each new line, and no tab is
part of the indentation. The first argument bounds the work. -/
def skipToToken : Nat → Layout → Option Layout
  | 0, _ => none
  | fuel + 1, s =>
    let c := s.cursor
    if c.head = '\t' && !s.indents.isEmpty && c.fresh && (c.column : Int) < s.indent then do
      let (_, c) ← c.skipToLineEnd true
      if isLineEnd c.head then skipToToken fuel (s.moveTo c) else none
    else if isBlank c.head then skipToToken fuel (s.moveTo (c.pass 1))
    else if isBreak c.head then
      skipToToken fuel { s with cursor := c.skipBreak, keyAllowed := s.keyAllowed || !s.isFlow }
    else if c.head = '#' then skipToToken fuel (s.moveTo c.skipComment)
    else some s

/-- The same between an explicit key's mark and the key, where no tab may stand. -/
def skipAfterMark : Nat → Layout → Option Layout
  | 0, _ => none
  | fuel + 1, s =>
    let c := s.cursor
    if c.head = ' ' then skipAfterMark fuel (s.moveTo (c.pass 1))
    else if isBreak c.head then
      skipAfterMark fuel { s with cursor := c.skipBreak, keyAllowed := s.keyAllowed || !s.isFlow }
    else if c.head = '#' then skipAfterMark fuel (s.moveTo c.skipComment)
    else if c.head = '\t' then none
    else some s

/-- Leaves everything before a directive or a mark of a document. -/
def leaveAll? (s : Layout) : Option Layout :=
  (s.leave (-1)).dropKey?.map ({ · with keyAllowed := false })

def readDirective (s : Layout) : Option Layout := do
  let s ← s.leaveAll?
  let (token, c) ← Directive.read s.cursor
  return (s.push token).moveTo c

/-- A mark of a document. Nothing but a comment follows one that ends it. -/
def readDocumentMark (s : Layout) (token : Token) (isEnd : Bool) : Option Layout := do
  let s ← s.leaveAll?
  let c := s.cursor.skip 3
  let s := s.push token
  if isEnd then
    let (_, c) ← c.skipToLineEnd true
    if isLineEnd c.head then return s.moveTo c else none
  else return s.moveTo c

/-- So many brackets may be open. -/
def mostBrackets : Nat := 255

def openFlow (s : Layout) (isTable : Bool) : Option Layout := do
  if mostBrackets < s.keys.length then none
  let s := s.beginKey.indentByOne
  let (_, c) ← (s.cursor.skip 1).skipToLineEnd true
  let s := { s with cursor := c, keys := none :: s.keys, keyAllowed := true }
  if isTable then return { s with inTable := true }.push .flowTable
  else return { s with implicit := false :: s.implicit }.push .flowList

def closeFlow (s : Layout) (isTable : Bool) : Option Layout := do
  let s ← s.dropKey?
  let s := { s with keys := if s.isFlow then s.keys.tail else s.keys, keyAllowed := false }
  let s := if isTable then s else
    let s := s.endImplicit
    { s with implicit := s.implicit.tail }
  let (_, c) ← (s.cursor.skip 1).skipToLineEnd true
  let adjacent := if s.isFlow then some c.index else s.adjacent
  return { s with cursor := c, adjacent }.push (if isTable then .flowTableEnd else .flowListEnd)

def readComma (s : Layout) : Option Layout := do
  let s := { ← s.dropKey? with keyAllowed := true }.endImplicit
  let (_, c) ← (s.cursor.skip 1).skipToLineEnd true
  return (s.moveTo c).push .comma

/-- The hyphen before an item of a list. -/
def readDash (s : Layout) : Option Layout := do
  let column := s.cursor.column
  if s.isFlow || !s.keyAllowed then none
  if column = 0 && 0 ≤ s.indent && s.tokens.head?.any Token.isEdgeProperty then none
  let s := (s.moveTo (s.cursor.skip 1)).enter column none .blockList
  let (blanks, c) ← s.cursor.skipToLineEnd true
  if blanks.contains '\t' && c.head = '-' && isSpace c.next then none
  let (_, c) ← c.skipToLineEnd false
  let s := s.moveTo c
  let s := if isBreak c.head || isFlowMark c.head then s.indentByOne else s
  return { ← s.dropKey? with keyAllowed := true }.push .dash

/-- The mark of a key that is no single word. -/
def readKeyMark (s : Layout) : Option Layout := do
  if !s.isFlow && !s.keyAllowed then none
  let s := if s.isFlow then { s with inTable := true }
    else s.enter s.cursor.column none .blockTable
  let s := { ← s.dropKey? with keyAllowed := !s.isFlow }
  let s := s.moveTo (s.cursor.skip 1)
  if !(s.cursor.head = ' ' || isBreak s.cursor.head) then none
  return (← skipAfterMark s.cursor.text.length.succ s).push .key

/-- The colon before a value. It makes a key of what may have been one. -/
def readColon (s : Layout) : Option Layout := do
  let start := s.cursor
  let implicit := !s.implicit.isEmpty && !s.inTable
  let s := if implicit then { s with implicit := true :: s.implicit.tail } else s
  let c := start.skip 1
  let c ← if c.head = '\t' then do
      let (blanks, c) ← c.skipToLineEnd true
      if !blanks.contains ' ' && isWordChar c.head then none else pure c
    else pure c
  let s := s.moveTo c
  match s.keys with
  | some key :: rest =>
    if implicit && key.line < start.line then none
    let s := s.insertAt key.place .key
    let s := if implicit then s.insertAt key.place .flowTable else s
    let s := (s.enter key.column (some key.place) .blockTable).indentByOne
    return { s with keys := none :: rest, keyAllowed := false }.push .value
  | _ =>
    let s := if implicit then s.push .flowTable else s
    if !s.isFlow && !s.keyAllowed then none
    let s := if s.isFlow then s else s.enter start.column none .blockTable
    return { s.indentByOne with keyAllowed := !s.isFlow }.push .value

/-- An alias or an anchor with its name. -/
def readName (s : Layout) (token : List Char → Token) : Option Layout := do
  let s := { s.beginKey with keyAllowed := false }
  let (name, c) := (s.cursor.skip 1).readWhile fun d =>
    !isSpace d && !isFlowMark d && d ≠ '\uFEFF'
  if name = [] then none
  return (s.moveTo c).push (token name)

def readTag (s : Layout) : Option Layout := do
  let s := { s.beginKey with keyAllowed := false }
  let (token, c) ← Tag.read s.isFlow s.cursor
  return (s.moveTo c).push token

def readBlock (s : Layout) (literal : Bool) : Option Layout := do
  let s := { s.beginKey with keyAllowed := true }.leaveAllLoose
  let (text, c) ← Block.read literal s.indent (s.cursor.skip 1)
  return (s.moveTo c).push (.text false text)

/-- A quoted text. Only a colon may follow it on its line, and marks inside of brackets. -/
def readQuoted (s : Layout) (single : Bool) : Option Layout := do
  let s := { s.beginKey with keyAllowed := false }
  let (text, c) ← Quoted.read single s.indent (s.cursor.skip 1)
  let (_, c) ← c.skipToLineEnd true
  let fits := isLineEnd c.head || s.isFlow && ",]\x7d:".toList.contains c.head ||
    c.head = ':' && s.cursor.line = c.line
  if !fits then none
  let s ← skipToToken c.text.length.succ (s.moveTo c)
  return { s with adjacent := some s.cursor.index }.push (.text false text)

def readPlain (s : Layout) : Option Layout := do
  let s := { s.beginKey with keyAllowed := false }.leaveAllLoose
  let (text, c) ← Plain.read s.isFlow (s.indent + 1) s.cursor
  return { s with cursor := c, keyAllowed := c.fresh }.push (.text true text)

/-- Reads the token that begins here. -/
def readToken (s : Layout) : Option Layout :=
  let c := s.cursor
  let spaced := isSpace c.next
  if c.column = 0 && c.head = '%' then s.readDirective
  else if c.column = 0 && c.isMark '-' then s.readDocumentMark .documentStart false
  else if c.column = 0 && c.isMark '.' then s.readDocumentMark .documentEnd true
  else if (c.column : Int) < s.indent then none
  else match c.head with
    | '[' => s.openFlow false
    | '\x7b' => s.openFlow true
    | ']' => s.closeFlow false
    | '\x7d' => s.closeFlow true
    | ',' => s.readComma
    | '*' => s.readName .alias
    | '&' => s.readName (.anchor c.column)
    | '!' => s.readTag
    | '\'' => s.readQuoted true
    | '"' => s.readQuoted false
    | '%' | '@' | '\x60' => none
    | '-' => if spaced then s.readDash else s.readPlain
    | '?' => if spaced then s.readKeyMark else s.readPlain
    | ':' =>
      if spaced || s.isFlow && (isFlowMark c.next || s.adjacent = some c.index) then s.readColon
      else s.readPlain
    | '|' => if s.isFlow then s.readPlain else s.readBlock true
    | '>' => if s.isFlow then s.readPlain else s.readBlock false
    | _ => s.readPlain

/-- The layout at the end of the text. A key that had to be one must be over. -/
def finish? (s : Layout) : Option Layout :=
  if s.keys.any fun key => key.any (·.required) then none else some (s.leave (-1))

/-- Reads all tokens. The first argument bounds the work. -/
def readAll : Nat → Layout → Option Layout
  | 0, _ => none
  | fuel + 1, s => do
    let s ← skipToToken s.cursor.text.length.succ s
    let s := (← s.dropStaleKey?)
    let s := s.leave s.cursor.column
    if s.cursor.head = ended then s.finish? else readAll fuel (← s.readToken)

end Layout

/-- The tokens of a text in order. -/
def tokens? (text : List Char) : Option (List Token) :=
  let s := Layout.ofText text
  (s.readAll s.cursor.text.length.succ).map (·.tokens.reverse)

end ParcelPricing.Yaml
