import ParcelPricing.Decimal.Layout

namespace ParcelPricing.Report
open Decimal

/-- Every digit that it takes to tell an amount apart, and never an exponent. -/
def plainFormat : NumberFormat where
  isPlain _ := true
  wholeTail := []
  tieUp := true

def plainText (x : Float) : List Char := plainFormat.chars x

/-- Rounded to hundredths. Adding zero takes the sign off a negative zero. -/
def amountText (x : Float) : List Char := plainText (Double.round (x * 100) / 100 + 0)

end ParcelPricing.Report
