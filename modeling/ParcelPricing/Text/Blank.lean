/-! White space, and the cutting of text into lines and tokens. -/
namespace ParcelPricing.Text

/-- Closed ranges of code points, ascending and apart. -/
def blankRanges : List (Nat × Nat) :=
  [(0x09, 0x0D), (0x20, 0x20), (0x85, 0x85), (0xA0, 0xA0), (0x1680, 0x1680), (0x2000, 0x200A),
    (0x2028, 0x2029), (0x202F, 0x202F), (0x205F, 0x205F), (0x3000, 0x3000)]

def isBlank (c : Char) : Bool := blankRanges.any fun r => r.1 ≤ c.toNat && c.toNat ≤ r.2

def skipBlank (text : List Char) : List Char := text.dropWhile isBlank

/-- Without its blank ends. -/
def trim (text : List Char) : List Char := (skipBlank (skipBlank text).reverse).reverse

/-- The longest pieces without a blank, in order. -/
def tokens (text : List Char) : List (List Char) := (text.splitOnP isBlank).filter (· ≠ [])

/-- The pieces between line feeds. A carriage return before one stays: it is blank. -/
def lines (text : List Char) : List (List Char) := text.splitOn '\n'

end ParcelPricing.Text
