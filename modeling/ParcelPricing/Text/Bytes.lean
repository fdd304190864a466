/-! Places in a text counted in bytes of UTF-8. -/
namespace ParcelPricing.Text

def byteCount (text : List Char) : Nat := (String.ofList text).utf8ByteSize

/-- A text cut after a number of bytes. -/
def cutAt? : Nat → List Char → Option (List Char × List Char)
  | 0, text => some ([], text)
  | _, [] => none
  | n, c :: rest =>
    if c.utf8Size ≤ n then (cutAt? (n - c.utf8Size) rest).map fun (a, b) => (c :: a, b) else none

/-- The bytes from a place to another one. -/
def between? (start stop : Nat) (text : List Char) : Option (List Char) := do
  let (_, rest) ← cutAt? start text
  let (piece, _) ← cutAt? (stop - start) rest
  return piece

end ParcelPricing.Text
