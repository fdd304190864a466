import ParcelPricing.Yaml.Quoted

/-! Texts of YAML without quotes. Further lines need more indentation. -/
namespace ParcelPricing.Yaml.Plain

/-- Whether the character here belongs to the text. -/
def continues (flow : Bool) (c : Cursor) : Bool :=
  if isSpace c.head then false
  else if c.head = ':' then !(isSpace c.next || flow && isFlowMark c.next)
  else !(flow && isFlowMark c.head)

/-- The characters up to the end of the text or a blank. -/
def readWord (flow : Bool) : Nat → Cursor → List Char × Cursor
  | 0, c => ([], c)
  | fuel + 1, c =>
    if continues flow c then
      let (word, rest) := readWord flow fuel (c.skip 1)
      (c.head :: word, rest)
    else ([], c)

/-- The gap from here on. A tab before the indentation of a line is reached stands on an empty line.
The first argument bounds the work. -/
def readGap (indent : Int) : Nat → Gap → Cursor → Option (Gap × Cursor)
  | 0, _, _ => none
  | fuel + 1, g, c =>
    if isBlank c.head then
      if !g.broken then readGap indent fuel { g with blanks := g.blanks ++ [c.head] } (c.pass 1)
      else if c.head = '\t' && (c.column : Int) < indent then do
        let (_, c) ← c.skipToLineEnd true
        if isLineEnd c.head then readGap indent fuel g c else none
      else readGap indent fuel g (c.pass 1)
    else if isBreak c.head then readGap indent fuel g.withBreak c.skipBreak
    else some (g, c)

/-- The text after a gap, and the place after the blanks that follow it. The first argument bounds
the work. -/
def readText (flow : Bool) (indent : Int) : Nat → Gap → Cursor → Option (List Char × Cursor)
  | 0, _, _ => none
  | fuel + 1, gap, c => do
    if c.isDocumentMark || c.head = '#' then return ([], c)
    if flow && c.head = '-' && isFlowMark c.next then none
    let (word, c) := readWord flow c.text.length c
    let before := if word = [] then [] else gap.chars
    if !(isBlank c.head || isBreak c.head) then return (before ++ word, c)
    let (gap, c) ← readGap indent c.text.length.succ {} c
    if !flow && (c.column : Int) < indent then return (before ++ word, c)
    let (text, c) ← readText flow indent fuel gap c
    return (before ++ word ++ text, c)

/-- A text that is not empty. -/
def read (flow : Bool) (indent : Int) (c : Cursor) : Option (List Char × Cursor) := do
  if flow && (c.column : Int) < indent then none
  let (text, c) ← readText flow indent c.text.length.succ {} c
  if text = [] then none else return (text, c)

end ParcelPricing.Yaml.Plain
