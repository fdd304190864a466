import ParcelPricing.Json5.Quoted
import ParcelPricing.Text.Identifier

namespace ParcelPricing.Json5
open Text

def isNameStart (c : Char) : Bool := c = '$' || c = '_' || isLetter c

def isNameChar (c : Char) : Bool :=
  isNameStart c || isMark c || isDecimalDigit c || isConnector c ||
    c = '\u200C' || c = '\u200D'

/-- The next character of a text, which may be written as an escape. -/
def readNameChar : List Char → Option (Char × List Char)
  | '\\' :: 'u' :: text => readUnit text
  | c :: text => some (c, text)
  | [] => none

/-- The rest of a name. A backslash must begin an escape of a character that may be there. The first
argument bounds the work. -/
def readNameRest : Nat → List Char → Option (List Char × List Char)
  | 0, _ => none
  | fuel + 1, text => do
    if text = [] then return ([], [])
    let (c, rest) ← readNameChar text
    if isNameChar c then
      let (name, rest) ← readNameRest fuel rest
      return (c :: name, rest)
    guard (text.head? ≠ some '\\')
    return ([], text)

def readName (text : List Char) : Option (List Char × List Char) := do
  let (c, rest) ← readNameChar text
  guard (isNameStart c)
  let (name, rest) ← readNameRest rest.length.succ rest
  return (c :: name, rest)

end ParcelPricing.Json5
