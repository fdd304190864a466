import ParcelPricing.Amount.Decade

/-! Amounts in binary64, by the exact value of a finite double. -/
namespace ParcelPricing.Double
open Float.Model (UnpackedFloat)
open Float.Model.UnpackedFloat (Sign)

/-- The double as a sign, a mantissa and a binary exponent, or one of the special values. -/
def view (x : Float) : UnpackedFloat := x.toModel.unpack

def signed : Sign → Float → Float
  | .positive, x => x
  | .negative, x => -x

/-- The whole number nearest to `m / 2 ^ k`; a half goes up. -/
def roundShift (m k : Nat) : Nat := (2 * m + Nat.pow 2 k) / Nat.pow 2 (k + 1)

/-- A double without fractional bits is whole already. The sign of a zero result is kept. -/
def round (x : Float) : Float :=
  match view x with
  | .finite s m (.negSucc k) _ => signed s (Float.ofNat (roundShift m (k + 1)))
  | _ => x

def decade (x : Float) : Int :=
  match view x with
  | .finite _ m e _ => Amount.ratioDecade (m * Nat.pow 2 e.toNat) (Nat.pow 2 (-e).toNat)
  | _ => 0

instance : Amount Float where
  zero := 0.0
  decidableLT := inferInstance
  decidableLE := inferInstance
  round := round
  decade := decade

end ParcelPricing.Double
