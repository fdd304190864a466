import ParcelPricing.Log.Pattern.Mode
import ParcelPricing.Text.CodePoint

/-! Single items of a pattern. Properties and case are known of ASCII alone. -/
namespace ParcelPricing.LogPattern
open Text

inductive Item where
  | literal (c : Char)
  /-- a character given by two hexadecimal digits -/
  | byte (c : Char)
  /-- a class of characters that has a letter -/
  | shorthand (negated : Bool)
  | property
  | anyChar
  | edge
  | wordEdge

namespace Item

def isAscii (c : Char) : Bool := c.toNat < 0x80

/-- Whether a pattern in this mode may have the item. -/
def isAllowed (m : Mode) : Item → Bool
  | literal _ => !(m.wide && m.ignoresCase)
  | byte c => if m.wide then !m.ignoresCase else isAscii c
  | shorthand negated => !m.wide && !negated
  | property => false
  | anyChar => m.wide
  | edge => true
  | wordEdge => !m.wide

/-- Whether a class in this mode may have the item. -/
def isMember (m : Mode) : Item → Bool
  | literal c | byte c => if m.wide then !m.ignoresCase else isAscii c
  | shorthand negated => !m.wide && !negated
  | property | anyChar | edge | wordEdge => false

/-- The character that an item stands for by itself. -/
def char? : Item → Option Char
  | literal c | byte c => some c
  | _ => none

/-- Marks stand for themselves behind a backslash; a letter needs a meaning. -/
def ofLetter? : Char → Option Item
  | 'a' => some (literal '\x07')
  | 'f' => some (literal '\x0c')
  | 't' => some (literal '\t')
  | 'n' => some (literal '\n')
  | 'r' => some (literal '\r')
  | 'v' => some (literal '\x0b')
  | 'd' | 's' | 'w' => some (shorthand false)
  | 'D' | 'S' | 'W' => some (shorthand true)
  | 'p' | 'P' => some property
  | 'A' | 'z' => some edge
  | 'b' | 'B' | '<' | '>' => some wordEdge
  | c => if isAscii c && !c.isAlphanum then some (literal c) else none

/-- So many hexadecimal digits, and what follows them. -/
def readHex (m : Mode) : Nat → List Char → Option (List Char × List Char)
  | 0, text => some ([], text)
  | _, [] => none
  | n + 1, c :: text =>
    if (hexValue? c).isSome then
      (readHex m n (m.skip text)).map fun (digits, rest) => (c :: digits, rest)
    else none

/-- What follows a backslash. -/
def readEscape (m : Mode) : List Char → Option (Item × List Char)
  | [] => none
  | letter :: text =>
    match escapeDigits? letter with
    | some n => do
      let (digits, rest) ← readHex m n (m.skip text)
      let c ← codePoint? digits
      return (if letter = 'x' then byte c else literal c, rest)
    | none => (ofLetter? letter).map (·, text)

end Item

end ParcelPricing.LogPattern
