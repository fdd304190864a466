import ParcelPricing.Text.Blank

namespace ParcelPricing.Json5
open Text

def isLineEnd (c : Char) : Bool := "\n\r\u2028\u2029".toList.contains c

def isSpace (c : Char) : Bool := isBlank c && c ≠ '\u0085' || c = '\uFEFF'

/-- The rest of a comment over several lines, after its end. -/
def skipBlock : List Char → Option (List Char)
  | '*' :: '/' :: text => some text
  | _ :: text => skipBlock text
  | [] => none

/-- The text after blanks and comments. The first argument bounds the work. -/
def skip : Nat → List Char → List Char
  | 0, text => text
  | fuel + 1, '/' :: '/' :: text => skip fuel (text.dropWhile fun c => !isLineEnd c)
  | fuel + 1, '/' :: '*' :: text =>
    match skipBlock text with
    | some rest => skip fuel rest
    | none => '/' :: '*' :: text
  | fuel + 1, c :: text => if isSpace c then skip fuel text else c :: text
  | _ + 1, [] => []

def skipSpace (text : List Char) : List Char := skip text.length.succ text

end ParcelPricing.Json5
