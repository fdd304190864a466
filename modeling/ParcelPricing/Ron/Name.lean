import ParcelPricing.Text.Identifier

namespace ParcelPricing.Ron
open Text

/-- An identifier and what follows it. -/
def readIdentifier : List Char → Option (List Char × List Char)
  | c :: rest =>
    if c = '_' || isIdentifierStart c then
      let name := c :: rest.takeWhile isIdentifierPart
      some (name, rest.dropWhile isIdentifierPart)
    else none
  | [] => none

def isRawNameChar (c : Char) : Bool := c.isAlphanum || "_.+-".toList.contains c

/-- A name of either kind. What begins a quoted text is no name. -/
def readName (text : List Char) : Option (List Char × List Char) :=
  match text with
  | 'b' :: '"' :: _ | 'b' :: '\'' :: _ | 'b' :: 'r' :: '#' :: _ | 'b' :: 'r' :: '"' :: _
  | 'r' :: '"' :: _ | 'r' :: '#' :: '"' :: _ | 'r' :: '#' :: '#' :: _ => none
  | 'r' :: '#' :: rest =>
    let name := rest.takeWhile isRawNameChar
    if name = [] then none else some (name, rest.dropWhile isRawNameChar)
  | text => readIdentifier text

/-- The text after a word that no longer name begins with. -/
def strip? (word : String) (text : List Char) : Option (List Char) :=
  let rest := text.drop word.length
  if word.toList.isPrefixOf text && !(rest.take 1).any isIdentifierPart then some rest else none

end ParcelPricing.Ron
