namespace ParcelPricing.Text

def replacement : Char := '\uFFFD'

/-- A character whose last bytes are still to come. The next byte has bounds of its own. -/
structure PartialChar where
  value : Nat
  owed : Nat
  low : Nat
  high : Nat

/-- A character of several bytes, by its first one. -/
def PartialChar.begin? (byte : Nat) : Option PartialChar :=
  if 0xC2 ≤ byte && byte ≤ 0xDF then some ⟨byte - 0xC0, 1, 0x80, 0xBF⟩
  else if byte = 0xE0 then some ⟨0, 2, 0xA0, 0xBF⟩
  else if byte = 0xED then some ⟨0x0D, 2, 0x80, 0x9F⟩
  else if 0xE1 ≤ byte && byte ≤ 0xEF then some ⟨byte - 0xE0, 2, 0x80, 0xBF⟩
  else if byte = 0xF0 then some ⟨0, 3, 0x90, 0xBF⟩
  else if byte = 0xF4 then some ⟨4, 3, 0x80, 0x8F⟩
  else if 0xF1 ≤ byte && byte ≤ 0xF3 then some ⟨byte - 0xF0, 3, 0x80, 0xBF⟩
  else none

/-- The characters that are certain with one more byte, and the one begun. -/
def firstByte (byte : Nat) : List Char × Option PartialChar :=
  if byte < 0x80 then ([Char.ofNat byte], none)
  else match PartialChar.begin? byte with
    | some c => ([], some c)
    | none => ([replacement], none)

def nextByte (c : PartialChar) (byte : Nat) : List Char × Option PartialChar :=
  if c.low ≤ byte && byte ≤ c.high then
    let value := c.value * 0x40 + (byte - 0x80)
    if c.owed ≤ 1 then ([Char.ofNat value], none)
    else ([], some ⟨value, c.owed - 1, 0x80, 0xBF⟩)
  else
    let (text, begun) := firstByte byte
    (replacement :: text, begun)

def decodeFrom : Option PartialChar → List UInt8 → List Char
  | none, [] => []
  | some _, [] => [replacement]
  | begun, byte :: bytes =>
    let (text, begun) := match begun with
      | none => firstByte byte.toNat
      | some c => nextByte c byte.toNat
    text ++ decodeFrom begun bytes

def decodeUtf8 (bytes : ByteArray) : List Char := decodeFrom none bytes.toList

end ParcelPricing.Text
