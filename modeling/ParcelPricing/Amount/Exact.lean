import ParcelPricing.Amount.Decade

namespace ParcelPricing.Exact

/-- The whole number nearest to `n / d`; a half goes up. -/
def roundRatio (n d : Nat) : Nat := (2 * n + d) / (2 * d)

def round (q : Rat) : Rat :=
  if 0 ≤ q.num then Rat.ofInt (roundRatio q.num.natAbs q.den)
  else Rat.ofInt (-roundRatio q.num.natAbs q.den)

instance : Amount Rat where
  zero := Rat.ofInt 0
  ofScientific := Rat.ofScientific
  decidableLT := inferInstance
  decidableLE := inferInstance
  round := round
  decade q := Amount.ratioDecade q.num.natAbs q.den

end ParcelPricing.Exact
