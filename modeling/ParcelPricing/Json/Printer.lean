import ParcelPricing.Json.Document

namespace ParcelPricing.Json

def hexDigit (n : Nat) : Char := Nat.digitChar (n % 16)

def escapedChar (c : Char) : List Char :=
  match c with
  | '"' => ['\\', '"']
  | '\\' => ['\\', '\\']
  | '\x08' => ['\\', 'b']
  | '\t' => ['\\', 't']
  | '\n' => ['\\', 'n']
  | '\x0c' => ['\\', 'f']
  | '\r' => ['\\', 'r']
  | c =>
    if c.toNat < 0x20 then ['\\', 'u', '0', '0', hexDigit (c.toNat / 16), hexDigit c.toNat] else [c]

def stringText (s : List Char) : List Char := '"' :: s.flatMap escapedChar ++ ['"']

def newLine (depth : Nat) : List Char := '\n' :: List.replicate (2 * depth) ' '

/-- Parts on lines of their own, one level deeper than the brackets around them. -/
def block (depth : Nat) (opening closing : Char) (parts : List (List Char)) : List Char :=
  if parts = [] then [opening, closing]
  else
    opening :: newLine (depth + 1) ++ List.intercalate (',' :: newLine (depth + 1)) parts ++
      newLine depth ++ [closing]

mutual

def pretty (depth : Nat) : Json → List Char
  | null => "null".toList
  | bool true => "true".toList
  | bool false => "false".toList
  | number text => text
  | string value => stringText value
  | array items => block depth '[' ']' (prettyItems (depth + 1) items)
  | object fields => block depth '\x7b' '\x7d' (prettyFields (depth + 1) fields)

def prettyItems (depth : Nat) : List Json → List (List Char)
  | [] => []
  | item :: rest => pretty depth item :: prettyItems depth rest

def prettyFields (depth : Nat) : List (List Char × Json) → List (List Char)
  | [] => []
  | (key, value) :: rest =>
    (stringText key ++ ':' :: ' ' :: pretty depth value) :: prettyFields depth rest

end

/-- A document on lines of its own. -/
def print (document : Json) : List Char := pretty 0 document ++ ['\n']

end ParcelPricing.Json
