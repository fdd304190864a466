import ParcelPricing.Text.CodePoint
import ParcelPricing.Toml.Space

namespace ParcelPricing.Toml
open Text

def escapeLetter? : Char → Option Char
  | 'b' => some '\x08'
  | 't' => some '\t'
  | 'n' => some '\n'
  | 'f' => some '\x0c'
  | 'r' => some '\r'
  | 'e' => some '\x1b'
  | '"' => some '"'
  | '\\' => some '\\'
  | _ => none

/-- What follows a backslash. -/
def readEscape : List Char → Option (Char × List Char)
  | [] => none
  | letter :: rest =>
    match escapeDigits? letter with
    | some n =>
      if n ≤ rest.length then (codePoint? (rest.take n)).map (·, rest.drop n) else none
    | none => (escapeLetter? letter).map (·, rest)

theorem readEscape_length {text rest : List Char} {c : Char}
    (h : readEscape text = some (c, rest)) : rest.length < text.length := by
  unfold readEscape at h
  split at h
  · simp at h
  · split at h
    · split at h
      · obtain ⟨_, _, h⟩ := Option.map_eq_some_iff.1 h
        simp only [Prod.mk.injEq] at h
        simp only [← h.2, List.length_drop, List.length_cons]
        omega
      · simp at h
    · obtain ⟨_, _, h⟩ := Option.map_eq_some_iff.1 h
      simp only [Prod.mk.injEq] at h
      simp [← h.2]

/-- The rest of a string on one line, up to its closing quote. -/
def readBasic : List Char → Option (List Char × List Char)
  | [] => none
  | '"' :: rest => some ([], rest)
  | '\\' :: rest =>
    match _h : readEscape rest with
    | some (c, rest) => (readBasic rest).map fun (tail, rest) => (c :: tail, rest)
    | none => none
  | c :: rest =>
    if isLineEnd c then none else (readBasic rest).map fun (tail, rest) => (c :: tail, rest)
termination_by text => text.length
decreasing_by
  · have := readEscape_length _h
    simp only [List.length_cons]
    omega
  · simp

/-- The rest of a string without escapes, up to its closing quote. -/
def readLiteral (text : List Char) : Option (List Char × List Char) :=
  let value := text.takeWhile fun c => c ≠ '\'' && !isLineEnd c
  match text.drop value.length with
  | '\'' :: rest => some (value, rest)
  | _ => none

/-- A line end right after the opening quotes does not count. -/
def skipFirstLineEnd : List Char → List Char
  | '\n' :: rest | '\r' :: '\n' :: rest => rest
  | text => text

/-- Up to two quotes may stand right before the three that close a string over several lines. -/
def closing (quote : Char) (text : List Char) : Option (List Char × List Char) :=
  let quotes := (text.take 5).takeWhile (· = quote)
  if 3 ≤ quotes.length then some (quotes.drop 3, text.drop quotes.length) else none

/-- A backslash at the end of a line takes the blanks up to the next text with it. -/
def foldLine? (text : List Char) : Option (List Char) :=
  if (skipSpace text).head?.any isLineEnd then
    some (text.dropWhile fun c => isSpace c || isLineEnd c)
  else none

/-- The rest of a string over several lines. The first argument bounds the work. -/
def readLong (quote : Char) (escapes : Bool) : Nat → List Char → Option (List Char × List Char)
  | 0, _ => none
  | fuel + 1, text =>
    match closing quote text, text with
    | some (tail, rest), _ => some (tail, rest)
    | none, [] => none
    | none, c :: rest =>
      if escapes && c = '\\' then
        match foldLine? rest with
        | some rest => readLong quote escapes fuel rest
        | none => do
          let (c, rest) ← readEscape rest
          let (tail, rest) ← readLong quote escapes fuel rest
          return (c :: tail, rest)
      else (readLong quote escapes fuel rest).map fun (tail, rest) => (c :: tail, rest)

/-- A string of any form. The first argument bounds the work. -/
def readQuoted (fuel : Nat) : List Char → Option (List Char × List Char)
  | '"' :: '"' :: '"' :: rest => readLong '"' true fuel (skipFirstLineEnd rest)
  | '\'' :: '\'' :: '\'' :: rest => readLong '\'' false fuel (skipFirstLineEnd rest)
  | '"' :: rest => readBasic rest
  | '\'' :: rest => readLiteral rest
  | _ => none

end ParcelPricing.Toml
