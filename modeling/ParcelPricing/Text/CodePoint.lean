namespace ParcelPricing.Text

def hexValue? (c : Char) : Option Nat :=
  if c.isDigit then some (c.toNat - '0'.toNat)
  else if 'a' ≤ c && c ≤ 'f' then some (c.toNat - 'a'.toNat + 10)
  else if 'A' ≤ c && c ≤ 'F' then some (c.toNat - 'A'.toNat + 10)
  else none

/-- The character of a code point, none for a surrogate. -/
def charOf? (n : Nat) : Option Char :=
  if h : n.isValidChar then some (Char.ofNatAux n h) else none

/-- The character of a code point in hexadecimal. -/
def codePoint? (digits : List Char) : Option Char := do
  let values ← digits.mapM hexValue?
  charOf? (values.foldl (fun n v => 16 * n + v) 0)

/-- How many digits of a code point follow a letter. -/
def escapeDigits? : Char → Option Nat
  | 'x' => some 2
  | 'u' => some 4
  | 'U' => some 8
  | _ => none

end ParcelPricing.Text
