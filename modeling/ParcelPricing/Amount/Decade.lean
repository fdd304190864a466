import ParcelPricing.Amount

namespace ParcelPricing.Amount

/-- How many decimal digits a natural number is written with. -/
def digitCount (n : Nat) : Nat := (Nat.toDigits 10 n).length

/-- The exponent of ten of the leading digit of `n / d`, or one more. -/
def ratioDecade (n d : Nat) : Int := digitCount n - digitCount d

end ParcelPricing.Amount
