import ParcelPricing.Text.Blank

namespace ParcelPricing.LogPattern
open Text

structure Mode where
  /-- of characters, not of bytes -/
  wide : Bool := true
  ignoresCase : Bool := false
  /-- with blanks and comments that do not count -/
  spaced : Bool := false

namespace Mode

/-- The text after blanks and comments. A comment ends with its line; the first argument tells
whether one is open. -/
def skipComments : Bool → List Char → List Char
  | _, [] => []
  | true, c :: text => skipComments (c ≠ '\n') text
  | false, c :: text =>
    if isBlank c then skipComments false text
    else if c = '#' then skipComments true text
    else c :: text

def skip (m : Mode) (text : List Char) : List Char :=
  if m.spaced then skipComments false text else text

/-- The first character that is neither blank nor the first sign of a comment. -/
def peekSpaced (commented : Bool) : List Char → Option Char
  | [] => none
  | c :: text =>
    if isBlank c then peekSpaced commented text
    else if !commented && c = '#' then peekSpaced true text
    else some c

/-- The character that decides what a hyphen in a class means. -/
def peek (m : Mode) (text : List Char) : Option Char :=
  if m.spaced then peekSpaced false text else text.head?

def letters : List Char := "imsUuRx".toList

/-- Whether a mode is on after a change: letters before a hyphen turn it on, after it off. -/
def stateOf (letter : Char) (change : List Char) (before : Bool) : Bool :=
  if (change.takeWhile (· ≠ '-')).contains letter then true
  else if change.contains letter then false
  else before

/-- No letter comes twice, nor does the hyphen, which is not the last. -/
def change? (m : Mode) (change : List Char) : Option Mode :=
  if change.all (fun c => c = '-' || letters.contains c) ∧ change.Nodup ∧
      change.getLast? ≠ some '-' then
    some {
      wide := stateOf 'u' change m.wide
      ignoresCase := stateOf 'i' change m.ignoresCase
      spaced := stateOf 'x' change m.spaced }
  else none

end Mode

end ParcelPricing.LogPattern
