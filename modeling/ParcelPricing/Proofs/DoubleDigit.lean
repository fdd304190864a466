import ParcelPricing.Proofs.DoublePower
import ParcelPricing.Proofs.OneDigit

/-! Rounding a double to one significant digit gives a number. -/
namespace ParcelPricing.Double
open Amount
open Float.Model (UnpackedFloat Format)
open Float.Model.UnpackedFloat

variable {x y : Float} {s : Sign} {e : Int}

theorem HasSign.mul_fromOne (h : HasSign s (view x)) (hy : FromOne y) :
    HasSign s (view (x * y)) := by
  obtain ⟨m, e, hm, hview, -, -⟩ := hy.exists_view
  have hs : s * .positive = s := by cases s <;> rfl
  have hproduct := (h.mul_finite .positive e hm).stored
  rwa [hs, ← hview, ← view_mul] at hproduct

theorem HasSign.div_fromOne (h : HasSign s (view x)) (hy : FromOne y) :
    HasSign s (view (x / y)) := by
  obtain ⟨m, e, hm, hview, -, -⟩ := hy.exists_view
  have hs : s / .positive = s := by cases s <;> rfl
  have hquotient := (h.div_finite .positive e hm).stored
  rwa [hs, ← hview, ← view_div] at hquotient

/-- Scaled by a power of ten that is finite, a number is rounded to a number. -/
theorem HasSign.roundAt (h : HasSign s (view x)) (he : FromOne (powerOfTen e.natAbs)) :
    HasSign s (view (roundAt e x)) := by
  rw [Amount.roundAt]
  split
  · rename_i hneg
    rw [Int.ofNat_natAbs_of_nonpos (by omega)] at he
    exact (h.mul_fromOne he).round.div_fromOne he
  · rename_i hnonneg
    rw [Int.natAbs_of_nonneg (by omega)] at he
    exact (h.div_fromOne he).round.mul_fromOne he

theorem exists_view_of_pos (hpos : 0.0 < x) (hfinite : IsFinite x) :
    ∃ m e hm, view x = .finite .positive m e hm := by
  rcases view_of_isFinite hfinite with ⟨t, hview⟩ | ⟨t, m, e, hm, hview⟩
  · have hscaled := (lt_iff.1 hpos).2.2
    rw [scaled, scaled, hview] at hscaled
    exact absurd hscaled (Int.lt_irrefl 0)
  · have hsign := hasSign_of_pos hpos
    rw [hview] at hsign
    cases hsign
    exact ⟨m, e, hm, hview⟩

theorem scaled_lt_of_isFinite (hfinite : IsFinite x) : scaled x < beyond := by
  have hpos := beyond_pos
  rcases view_of_isFinite hfinite with ⟨t, hview⟩ | ⟨t, m, e, hm, hview⟩
  · rw [scaled, hview]
    exact Int.ofNat_lt.2 hpos
  · obtain ⟨hcanonical, hlast⟩ := canonical_view hview
    have hlt := units_lt_beyond hcanonical hlast
    rw [scaled, hview]
    cases t <;> simp only [scaledView, Sign.apply] <;> omega

theorem fromOne_of_le (hone : 1.0 ≤ x) (hle : x ≤ y) (hy : IsFinite y) : FromOne x := by
  have hnonneg : 0 ≤ scaled x := (Int.natCast_nonneg _).trans (one_le_iff.1 hone).2
  have hlt := scaled_lt_of_isFinite hy
  have hxy := (le_iff.1 hle).2.2
  exact ⟨isFinite_of_lt (one_le_iff.1 hone).1 (by omega) (by omega), hone⟩

section Estimate

theorem digitCount_le_of_lt {n k : Nat} (h : n < 10 ^ k) (hk : 0 < k) : digitCount n ≤ k :=
  (Nat.length_toDigits_le_iff (by decide) hk).2 h

theorem one_le_digitCount (n : Nat) : 1 ≤ digitCount n := Nat.length_toDigits_pos

theorem decade_of_view {m : Nat} {hm : 0 < m} (h : view x = .finite s m e hm) :
    decade x = ratioDecade (m * 2 ^ e.toNat) (2 ^ (-e).toNat) := by
  simp only [Double.decade, h]
  rfl

theorem two_pow_lt_ten_pow {k n : Nat} (h : k ≤ 93 * n + 1) : 2 ^ k < 10 ^ (28 * n + 1) := by
  calc 2 ^ k ≤ 2 ^ (93 * n + 1) := Nat.pow_le_pow_right (by decide) h
    _ = (2 ^ 93) ^ n * 2 := by rw [← Nat.pow_mul, Nat.pow_succ]
    _ < (10 ^ 28) ^ n * 10 := Nat.mul_lt_mul_of_le_of_lt
        (Nat.pow_le_pow_left (by decide) n) (by decide) (Nat.pow_pos (by decide))
    _ = 10 ^ (28 * n + 1) := by rw [← Nat.pow_mul, ← Nat.pow_succ]

/-- No double has more than 309 digits before the point. -/
theorem decade_le (hpos : 0.0 < x) (hfinite : IsFinite x) : decade x ≤ 308 := by
  obtain ⟨m, e, hm, hview⟩ := exists_view_of_pos hpos hfinite
  obtain ⟨hcanonical, hlast⟩ := canonical_view hview
  have hexponent : 53 + e.toNat ≤ 1024 := by
    have hlastExponent : lastExponent = 971 := rfl
    omega
  have hlt : m * 2 ^ e.toNat < 10 ^ (28 * 11 + 1) := by
    calc m * 2 ^ e.toNat < 2 ^ 53 * 2 ^ e.toNat := mul_two_pow_lt _ hcanonical.mantissa_lt
      _ = 2 ^ (53 + e.toNat) := (Nat.pow_add ..).symm
      _ < 10 ^ (28 * 11 + 1) := two_pow_lt_ten_pow (n := 11) hexponent
  have hdigits := digitCount_le_of_lt hlt (by decide)
  have hone := one_le_digitCount (2 ^ (-e).toNat)
  rw [decade_of_view hview, ratioDecade]
  omega

/-- Above a billionth the mantissa with ten more digits is no less than what it is divided by. -/
theorem two_pow_le_mantissa {m : Nat} {hm : 0 < m} (hpos : 1e-9 < x)
    (hview : view x = .finite .positive m e hm) (he : e < 0) :
    2 ^ (-e).toNat ≤ m * 10 ^ 10 := by
  have hbillionth : view 1e-9 = .finite .positive 4835703278458517 (-82) (by decide) := rfl
  obtain ⟨k, hk, hunits⟩ : ∃ k, 82 + k = point ∧ 4835703278458517 * 2 ^ k < units m e := by
    have hlt := (lt_iff.1 hpos).2.2
    rw [scaled, scaled, hbillionth, hview] at hlt
    exact ⟨(-82 + 1074 : Int).toNat, by rw [point_eq]; rfl, Int.ofNat_lt.1 hlt⟩
  have hexponent : (-e).toNat + (e + 1074).toNat = point := by
    have hleast := (canonical_view hview).1.exponent_ge
    rw [point_eq]
    omega
  by_contra hgt
  have hcontra : 2 ^ point < 2 ^ point := by
    calc 2 ^ point = 2 ^ 82 * 2 ^ k := by rw [← Nat.pow_add, hk]
      _ ≤ 4835703278458517 * 10 ^ 10 * 2 ^ k := Nat.mul_le_mul_right _ (by decide)
      _ = 4835703278458517 * 2 ^ k * 10 ^ 10 := Nat.mul_right_comm ..
      _ ≤ units m e * 10 ^ 10 := Nat.mul_le_mul_right _ hunits.le
      _ = m * 10 ^ 10 * 2 ^ (e + 1074).toNat := Nat.mul_right_comm ..
      _ < 2 ^ (-e).toNat * 2 ^ (e + 1074).toNat := mul_two_pow_lt _ (Nat.not_le.1 hgt)
      _ = 2 ^ point := by rw [← Nat.pow_add, hexponent]
  exact Nat.lt_irrefl _ hcontra

/-- A double above a billionth has its leading digit among the first ten behind the point. -/
theorem le_decade (hpos : 1e-9 < x) (hfinite : IsFinite x) : -10 ≤ decade x := by
  have hpos' : 0.0 < x := lt_of_lt_of_le (by decide) (Ordered.le_of_lt hpos)
  obtain ⟨m, e, hm, hview⟩ := exists_view_of_pos hpos' hfinite
  have hone := one_le_digitCount (m * 2 ^ e.toNat)
  have hdigits : digitCount (2 ^ (-e).toNat) ≤ digitCount (m * 2 ^ e.toNat) + 10 := by
    rcases lt_or_ge e 0 with he | he
    · have hnone : e.toNat = 0 := by omega
      rw [hnone, Nat.pow_zero, Nat.mul_one]
      refine digitCount_le_of_lt ?_ (by omega)
      calc 2 ^ (-e).toNat ≤ m * 10 ^ 10 := two_pow_le_mantissa hpos hview he
        _ < 10 ^ digitCount m * 10 ^ 10 :=
            Nat.mul_lt_mul_of_pos_right (lt_ten_pow_digitCount m) (by decide)
        _ = 10 ^ (digitCount m + 10) := (Nat.pow_add ..).symm
    · have hnone : (-e).toNat = 0 := by omega
      have hdigit : digitCount 1 ≤ 1 := digitCount_le_of_lt (by decide) (by decide)
      rw [hnone, Nat.pow_zero]
      omega
  rw [decade_of_view hview, ratioDecade]
  omega

end Estimate

/-- The power of ten that scales an amount above a billionth is finite. -/
theorem fromOne_leadingExponent (hpos : 1e-9 < x) (hfinite : IsFinite x) :
    FromOne (powerOfTen (leadingExponent (decade x) x).natAbs) := by
  have hpos' : 0.0 < x := lt_of_lt_of_le (by decide) (Ordered.le_of_lt hpos)
  have hle := decade_le hpos' hfinite
  have hge := le_decade hpos hfinite
  have hsmall : ∀ {e : Int}, -11 ≤ e → e ≤ 307 → FromOne (powerOfTen e.natAbs) :=
    fun hlow hhigh => fromOne_powerOfTen (by omega)
  -- A power that is at most the amount is finite with it, however large.
  have hbelow : ∀ {e : Int}, -11 ≤ e → ¬ x < powerOfTen e → FromOne (powerOfTen e.natAbs) := by
    intro e hlow hlt
    rcases lt_or_ge e 0 with hneg | hnonneg
    · exact hsmall hlow (by omega)
    · have hone := one_le_powerOfTen e.natAbs
      rw [Int.natAbs_of_nonneg hnonneg] at hone ⊢
      exact fromOne_of_le hone
        (Ordered.le_of_not_lt (lt_iff.1 hpos).2.1 (one_le_iff.1 hone).1 hlt) hfinite
  rw [leadingExponent]
  split
  · rename_i hpower
    exact hbelow (by omega) (not_lt_of_le hpower)
  · split
    · exact hsmall (by omega) (by omega)
    · rename_i hpower
      exact hbelow (by omega) hpower

/-- Above a billionth one digit of a finite amount is a number. -/
theorem isNumber_oneDigit (hpos : 1e-9 < x) (hfinite : IsFinite x) : IsNumber (oneDigit x) := by
  have hpos' : 0.0 < x := lt_of_lt_of_le (by decide) (Ordered.le_of_lt hpos)
  have hmagnitude : magnitude x = x := if_neg (hasSign_of_pos hpos').signed.not_neg
  rw [oneDigit, oneDigitFrom, hmagnitude]
  split
  · exact (lt_iff.1 hpos).2.1
  · exact isNumber_iff.2
      ((hasSign_of_pos hpos').roundAt (fromOne_leadingExponent hpos hfinite)).ne_notANumber

/-- What does not come to a number when rounded is a billionth at most. -/
theorem le_of_not_isNumber_oneDigit (hx : IsNumber x) (h : ¬ IsNumber (oneDigit x)) :
    x ≤ 1e-9 := by
  have hfinite : IsFinite x := by
    by_contra hinfinite
    have hkept : oneDigit x = x := if_pos (Or.inr hinfinite)
    rw [hkept] at h
    exact h hx
  refine Ordered.le_of_not_lt (by decide) hx fun hpos => ?_
  exact h (isNumber_oneDigit hpos hfinite)

end ParcelPricing.Double
