import ParcelPricing.Amount

/-! Rounding to one significant digit, at a scale whose estimate is put right. -/
namespace ParcelPricing.Amount
variable {α : Type} [Amount α]

/-- `acc * a ^ n`, squaring `a` once for each binary digit of `n` but the last. -/
def powerOnto (acc a : α) (n : Nat) : α :=
  let next := if n % 2 = 1 then acc * a else acc
  if _h : n / 2 = 0 then next else powerOnto next (a * a) (n / 2)
termination_by n

def powerOfTen : Int → α
  | .ofNat n => powerOnto 1.0 10.0 n
  | .negSucc n => 1.0 / powerOnto 1.0 10.0 (n + 1)

/-- The exponent of ten of the leading digit of `m`, given an estimate of it. -/
def leadingExponent (estimate : Int) (m : α) : Int :=
  if powerOfTen (estimate + 1) ≤ m then estimate + 1
  else if m < powerOfTen estimate then estimate - 1
  else estimate

/-- The multiple of `10 ^ e` nearest to `a`. A negative exponent scales up first, so that every
power of ten in use is a whole number. -/
def roundAt (e : Int) (a : α) : α :=
  if e < 0 then round (a * powerOfTen (-e)) / powerOfTen (-e)
  else round (a / powerOfTen e) * powerOfTen e

/-- One significant digit, starting from an estimate of its exponent. -/
def oneDigitFrom (estimate : Int) (a : α) : α :=
  if IsZero a ∨ ¬ IsFinite a then a else roundAt (leadingExponent estimate (magnitude a)) a

def oneDigit (a : α) : α := oneDigitFrom (decade (magnitude a)) a

end ParcelPricing.Amount
