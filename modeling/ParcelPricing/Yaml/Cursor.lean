import ParcelPricing.Text.CodePoint

namespace ParcelPricing.Yaml

/-- What stands behind the last character. -/
def ended : Char := '\x00'

def isBlank (c : Char) : Bool := c = ' ' || c = '\t'

def isBreak (c : Char) : Bool := c = '\n' || c = '\r'

def isLineEnd (c : Char) : Bool := isBreak c || c = ended

def isSpace (c : Char) : Bool := isBlank c || isLineEnd c

/-- Marks of lists and tables in brackets. -/
def isFlowMark (c : Char) : Bool := ",[]\x7b\x7d".toList.contains c

def isWordChar (c : Char) : Bool := c.isAlphanum || c = '_' || c = '-'

structure Cursor where
  text : List Char
  index : Nat := 0
  line : Nat := 0
  column : Nat := 0
  /-- whether nothing but blanks stands before it on its line -/
  fresh : Bool := true

namespace Cursor

def ofText (text : List Char) : Cursor where
  text := text.takeWhile (· ≠ ended)

def head (c : Cursor) : Char := c.text.headD ended

def next (c : Cursor) : Char := c.text.tail.headD ended

/-- Goes over blanks. -/
def pass (n : Nat) (c : Cursor) : Cursor :=
  { c with text := c.text.drop n, index := c.index + n, column := c.column + n }

/-- Goes over characters that count. -/
def skip (n : Nat) (c : Cursor) : Cursor := { c.pass n with fresh := false }

/-- Goes over a line end. -/
def skipBreak (c : Cursor) : Cursor :=
  let width := if c.head = '\r' && c.next = '\n' then 2 else 1
  if isBreak c.head then
    { text := c.text.drop width, index := c.index + width, line := c.line + 1 }
  else c

def passWhile (p : Char → Bool) (c : Cursor) : Cursor := c.pass (c.text.takeWhile p).length

/-- What a condition holds for from here on, and the place after it. -/
def readWhile (p : Char → Bool) (c : Cursor) : List Char × Cursor :=
  let read := c.text.takeWhile p
  (read, if read = [] then c else c.skip read.length)

def skipComment (c : Cursor) : Cursor := (c.readWhile fun d => !isLineEnd d).2

/-- Goes over blanks and a comment, which needs a blank before it, and tells which blanks those are.
Tabs count as blanks only where they are allowed. -/
def skipToLineEnd (tabs : Bool) (c : Cursor) : Option (List Char × Cursor) :=
  let blanks := c.text.takeWhile fun d => d = ' ' || tabs && d = '\t'
  let c := c.pass blanks.length
  if c.head = '#' then if blanks = [] then none else some (blanks, c.skipComment)
  else some (blanks, c)

/-- Whether a mark of three characters that begins or ends a document stands here. -/
def isMark (mark : Char) (c : Cursor) : Bool :=
  c.text.take 3 = [mark, mark, mark] && isSpace ((c.text.drop 3).headD ended)

def isDocumentMark (c : Cursor) : Bool := c.column = 0 && (c.isMark '-' || c.isMark '.')

end Cursor

end ParcelPricing.Yaml
