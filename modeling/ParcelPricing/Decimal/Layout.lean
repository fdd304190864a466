import ParcelPricing.Decimal.Shortest
import ParcelPricing.Text.Numeral

namespace ParcelPricing.Decimal
open Text

structure NumberFormat where
  /-- whether a number whose leading digit stands for `10 ^ e` is written without an exponent -/
  isPlain : Int → Bool
  /-- what follows a whole number that is written without an exponent -/
  wholeTail : List Char
  /-- of two shortest decimals that are equally near, the larger one is taken, else the even one -/
  tieUp : Bool

namespace NumberFormat

def zeros (n : Nat) : List Char := List.replicate n '0'

/-- The exponent always has a sign and is not padded. -/
def exponentText (e : Int) : List Char :=
  'e' :: (if e < 0 then '-' else '+') :: decimal e.natAbs

def plain (f : NumberFormat) (digits : List Char) (exponent : Int) : List Char :=
  let point := digits.length + exponent
  if 0 ≤ exponent then digits ++ zeros exponent.toNat ++ f.wholeTail
  else if 0 < point then digits.take point.toNat ++ '.' :: digits.drop point.toNat
  else '0' :: '.' :: zeros (-point).toNat ++ digits

def scientific (digits : List Char) (exponent : Int) : List Char :=
  let leading := exponentText (digits.length + exponent - 1)
  match digits with
  | [] => leading
  | [digit] => digit :: leading
  | digit :: rest => digit :: '.' :: rest ++ leading

def numeral (f : NumberFormat) (n : Numeral) : List Char :=
  let digits := decimal n.digits
  if f.isPlain (digits.length + n.exponent - 1) then f.plain digits n.exponent
  else scientific digits n.exponent

def sign : Float.Model.UnpackedFloat.Sign → List Char
  | .negative => ['-']
  | .positive => []

def chars (f : NumberFormat) (x : Float) : List Char :=
  match Double.view x with
  | .notANumber => "NaN".toList
  | .infinity s => sign s ++ "inf".toList
  | .zero s => sign s ++ '0' :: f.wholeTail
  | .finite s m e _ => sign s ++ f.numeral (shortest m e f.tieUp)

end NumberFormat

end ParcelPricing.Decimal
