import ParcelPricing.Proofs.OneDigit

/-! What rounding to one significant digit is, with amounts as exact rationals. -/
namespace ParcelPricing.Amount

/-- Of all multiples of a unit the nearest to an amount, and of two that are as near the one further from
zero. -/
structure NearestMultiple (unit v r : ℚ) : Prop where
  multiple : ∃ n : ℤ, r = n * unit
  nearest (n : ℤ) : |v - r| ≤ |v - n * unit|
  away (n : ℤ) (htie : |v - n * unit| = |v - r|) : n * unit = r ∨ |n * unit| < |r|

variable {unit v w r : ℚ} {e : ℤ}

theorem NearestMultiple.neg (h : NearestMultiple unit v r) : NearestMultiple unit (-v) (-r) := by
  have hdistance : ∀ x : ℚ, |-v - -x| = |v - x| := by
    intro x
    rw [neg_sub_neg, abs_sub_comm]
  have hopposite : ∀ n : ℤ, (n : ℚ) * unit = -((-n : ℤ) * unit) := by
    intro n
    push_cast
    ring
  obtain ⟨⟨n, rfl⟩, hnearest, haway⟩ := h
  refine ⟨⟨-n, by push_cast; ring⟩, fun m => ?_, fun m htie => ?_⟩
  · rw [hopposite m, hdistance, hdistance]
    exact hnearest (-m)
  · rw [hopposite m, hdistance, hdistance] at htie
    rw [hopposite m, neg_inj, abs_neg, abs_neg]
    exact haway (-m) htie

theorem NearestMultiple.mul_unit (h : NearestMultiple 1 v r) (hunit : 0 < unit) :
    NearestMultiple unit (v * unit) (r * unit) := by
  have hdistance : ∀ x : ℚ, |v * unit - x * unit| = |v - x| * unit := by
    intro x
    rw [← sub_mul, abs_mul, abs_of_pos hunit]
  obtain ⟨⟨n, rfl⟩, hnearest, haway⟩ := h
  simp only [mul_one] at hnearest haway ⊢
  refine ⟨⟨n, rfl⟩, fun m => ?_, fun m htie => ?_⟩
  · rw [hdistance, hdistance]
    exact mul_le_mul_of_nonneg_right (hnearest m) hunit.le
  · rw [hdistance, hdistance] at htie
    rcases haway m (mul_right_cancel₀ hunit.ne' htie) with hsame | hless
    · exact Or.inl (congrArg (· * unit) hsame)
    · rw [abs_mul, abs_mul]
      exact Or.inr (mul_lt_mul_of_pos_right hless (abs_pos.2 hunit.ne'))

/-- A whole number is the nearest to an amount above zero if it is half of one away at most, and if it
lies above the amount when it is just half of one away. -/
theorem nearestMultiple_one {n : ℤ} (hv : 0 < v) (hlow : v - 1 / 2 < n) (hhigh : n ≤ v + 1 / 2) :
    NearestMultiple 1 v n := by
  have hhalf : |v - n| ≤ 1 / 2 := abs_le.2 ⟨by linarith, by linarith⟩
  -- Beyond its neighbours every other whole number lies more than half of one away.
  have hbelow : ∀ m : ℤ, m < n → |v - m| = v - m ∧ 1 / 2 ≤ v - m := by
    intro m hm
    have hm' : (m : ℚ) + 1 ≤ n := by exact_mod_cast hm
    exact ⟨abs_of_nonneg (by linarith), by linarith⟩
  have habove : ∀ m : ℤ, n < m → 1 / 2 < |v - m| := by
    intro m hm
    have hm' : (n : ℚ) + 1 ≤ m := by exact_mod_cast hm
    rw [abs_sub_comm]
    exact lt_of_lt_of_le (by linarith) (le_abs_self (m - v))
  refine ⟨⟨n, (mul_one _).symm⟩, fun m => ?_, fun m htie => ?_⟩
  · rw [mul_one]
    rcases lt_trichotomy m n with hm | rfl | hm
    · rw [(hbelow m hm).1]
      exact hhalf.trans (hbelow m hm).2
    · exact le_refl _
    · exact hhalf.trans (habove m hm).le
  · rw [mul_one] at htie ⊢
    rcases lt_trichotomy m n with hm | rfl | hm
    · obtain ⟨hdistance, hfar⟩ := hbelow m hm
      have hm' : (m : ℚ) < n := by exact_mod_cast hm
      rw [hdistance] at htie
      -- The two lie on both sides of the amount, and the lower one is the nearer to zero.
      have hside : v < n := by
        by_contra hle
        rw [abs_of_nonneg (by linarith)] at htie
        linarith
      rw [abs_of_neg (by linarith)] at htie
      rw [abs_of_pos (hv.trans hside)]
      exact Or.inr (abs_lt.2 ⟨by linarith, hm'⟩)
    · exact Or.inl rfl
    · exact absurd (htie ▸ habove m hm) (not_lt.2 hhalf)

theorem nearestMultiple_of_pos (hv : 0 < v) (h : LeadsAt e v) :
    NearestMultiple (10 ^ e) v (oneDigit v) := by
  have hpow : (0 : ℚ) < 10 ^ e := zpow_pos (by norm_num) e
  obtain ⟨d, -, -, hdigit, hlow, hhigh⟩ := exists_digit hv h
  have hscaled := (nearestMultiple_one (div_pos hv hpow) hlow hhigh).mul_unit hpow
  rwa [div_mul_cancel₀ v hpow.ne', ← hdigit] at hscaled

theorem LeadsAt.ne_zero (h : LeadsAt e |v|) : v ≠ 0 := by
  have hpow : (0 : ℚ) < 10 ^ e := zpow_pos (by norm_num) e
  exact abs_pos.1 (hpow.trans_le h.1)

theorem nearestMultiple_oneDigit (h : LeadsAt e |v|) : NearestMultiple (10 ^ e) v (oneDigit v) := by
  rcases lt_or_gt_of_ne h.ne_zero with hneg | hpos
  · rw [abs_of_neg hneg] at h
    have hopposite := (nearestMultiple_of_pos (neg_pos.2 hneg) h).neg
    rwa [oneDigit_neg, neg_neg, neg_neg] at hopposite
  · exact nearestMultiple_of_pos hpos (abs_of_pos hpos ▸ h)

theorem oneDigit_mono_of_pos (hv : 0 < v) (h : v ≤ w) : oneDigit v ≤ oneDigit w := by
  have hten : (1 : ℚ) < 10 := by norm_num
  have hw : 0 < w := hv.trans_le h
  obtain ⟨e, he⟩ := exists_leadsAt hv
  obtain ⟨f, hf⟩ := exists_leadsAt hw
  have hpow : (0 : ℚ) < 10 ^ e := zpow_pos (by norm_num) e
  have hpow' : (0 : ℚ) < 10 ^ f := zpow_pos (by norm_num) f
  obtain ⟨d, -, hd, hdigit, -, hhigh⟩ := exists_digit hv he
  obtain ⟨d', hd', -, hdigit', hlow, -⟩ := exists_digit hw hf
  rw [hdigit, hdigit']
  have hef : e < f + 1 := (zpow_lt_zpow_iff_right₀ hten).1 (he.1.trans_lt (h.trans_lt hf.2))
  rcases eq_or_lt_of_le (Int.lt_add_one_iff.1 hef) with rfl | hlt
  · have hscaled : v / 10 ^ e ≤ w / 10 ^ e := div_le_div_of_nonneg_right h hpow.le
    have hdigits : (d : ℚ) < d' + 1 := by linarith
    have hle : d ≤ d' := Int.lt_add_one_iff.1 (by exact_mod_cast hdigits)
    exact mul_le_mul_of_nonneg_right (by exact_mod_cast hle) hpow.le
  · -- From one decade to the next a digit may become ten, and no more.
    calc (d : ℚ) * 10 ^ e ≤ 10 * 10 ^ e := mul_le_mul_of_nonneg_right (by exact_mod_cast hd) hpow.le
      _ = 10 ^ (e + 1) := by rw [zpow_add_one₀ (by norm_num), mul_comm]
      _ ≤ 10 ^ f := zpow_le_zpow_right₀ hten.le (Int.add_one_le_of_lt hlt)
      _ ≤ d' * 10 ^ f := le_mul_of_one_le_left hpow'.le (by exact_mod_cast hd')

theorem oneDigit_mono : Monotone (oneDigit : ℚ → ℚ) := by
  intro v w h
  have hnonneg : ∀ {a : ℚ}, 0 ≤ a → 0 ≤ oneDigit a := by
    intro a ha
    have hle := oneDigit_nonpos (neg_nonpos.2 ha)
    rw [oneDigit_neg] at hle
    exact neg_nonpos.1 hle
  rcases lt_or_ge 0 v with hv | hv
  · exact oneDigit_mono_of_pos hv h
  · rcases lt_or_ge w 0 with hw | hw
    · have hopposite := oneDigit_mono_of_pos (neg_pos.2 hw) (neg_le_neg h)
      rw [oneDigit_neg, oneDigit_neg] at hopposite
      exact neg_le_neg_iff.1 hopposite
    · exact (oneDigit_nonpos hv).trans (hnonneg hw)

theorem LeadsAt.mul_zpow (h : LeadsAt e v) (k : ℤ) : LeadsAt (e + k) (v * 10 ^ k) := by
  have hpow : (0 : ℚ) < 10 ^ k := zpow_pos (by norm_num) k
  constructor
  · rw [zpow_add₀ (by norm_num)]
    exact mul_le_mul_of_nonneg_right h.1 hpow.le
  · rw [add_right_comm, zpow_add₀ (by norm_num)]
    exact mul_lt_mul_of_pos_right h.2 hpow

theorem oneDigit_mul_zpow (v : ℚ) (k : ℤ) : oneDigit (v * 10 ^ k) = oneDigit v * 10 ^ k := by
  rcases eq_or_ne v 0 with rfl | hv
  · rw [zero_mul, oneDigit_zero, zero_mul]
  · have hpow : (0 : ℚ) < 10 ^ k := zpow_pos (by norm_num) k
    obtain ⟨e, he⟩ := exists_leadsAt (abs_pos.2 hv)
    have hmoved : LeadsAt (e + k) |v * 10 ^ k| := by
      rw [abs_mul, abs_of_pos hpow]
      exact he.mul_zpow k
    rw [oneDigit_eq (mul_ne_zero hv hpow.ne') hmoved, oneDigit_eq hv he,
      zpow_add₀ (by norm_num), mul_div_mul_right _ _ hpow.ne', mul_assoc]

/-- What has one digit is a multiple of its own decade, and so the nearest one to itself. -/
theorem IsOneDigit.oneDigit_eq_self (h : IsOneDigit v) : oneDigit v = v := by
  obtain ⟨d, k, hone, hnine, rfl⟩ := h
  have hlead : LeadsAt 0 |(d : ℚ)| := by
    have hone' : (1 : ℚ) ≤ |(d : ℚ)| := by exact_mod_cast hone
    have hnine' : |(d : ℚ)| ≤ 9 := by exact_mod_cast hnine
    exact ⟨by rwa [zpow_zero], by norm_num; linarith⟩
  have hnearest := (nearestMultiple_oneDigit hlead).nearest d
  rw [zpow_zero, mul_one, sub_self, abs_zero] at hnearest
  rw [oneDigit_mul_zpow, ← sub_eq_zero.1 (abs_nonpos_iff.1 hnearest)]

theorem isOneDigit_oneDigit (hv : v ≠ 0) : IsOneDigit (oneDigit v) := by
  rcases lt_or_gt_of_ne hv with hneg | hpos
  · obtain ⟨d, k, hone, hnine, heq⟩ := (oneDigit_of_pos (neg_pos.2 hneg)).1
    rw [oneDigit_neg] at heq
    exact ⟨-d, k, by rwa [abs_neg], by rwa [abs_neg], by push_cast; linarith⟩
  · exact (oneDigit_of_pos hpos).1

theorem oneDigit_oneDigit (v : ℚ) : oneDigit (oneDigit v) = oneDigit v := by
  rcases eq_or_ne v 0 with rfl | hv
  · rw [oneDigit_zero, oneDigit_zero]
  · exact (isOneDigit_oneDigit hv).oneDigit_eq_self

theorem oneDigit_pos_iff : 0 < oneDigit v ↔ 0 < v := by
  constructor
  · intro h
    by_contra hle
    exact absurd (oneDigit_nonpos (not_lt.1 hle)) (not_le.2 h)
  · intro h
    have hbound := (oneDigit_of_pos h).2
    linarith

/-- What rounding to one significant digit does to every amount. -/
structure IsOneDigitRounding (f : ℚ → ℚ) : Prop where
  isOneDigit {v : ℚ} (hv : v ≠ 0) : IsOneDigit (f v)
  pos_iff (v : ℚ) : 0 < f v ↔ 0 < v
  neg_iff (v : ℚ) : f v < 0 ↔ v < 0
  nearest {v : ℚ} {e : ℤ} (h : LeadsAt e |v|) : NearestMultiple (10 ^ e) v (f v)
  odd (v : ℚ) : f (-v) = -f v
  mono : Monotone f
  idempotent (v : ℚ) : f (f v) = f v
  mul_zpow (v : ℚ) (k : ℤ) : f (v * 10 ^ k) = f v * 10 ^ k

/-- Rounding to one digit gives the nearest multiple of the leading decade, a half away from zero.
It is odd, monotone, idempotent, and stable under an exponent that is off by one. -/
theorem one_digit_rounding : IsOneDigitRounding (oneDigit : ℚ → ℚ) ∧
    ∀ (v : ℚ) (e estimate : ℤ), LeadsAt e |v| →
      estimate = e - 1 ∨ estimate = e ∨ estimate = e + 1 →
        oneDigitFrom estimate v = oneDigit v := by
  refine ⟨⟨isOneDigit_oneDigit, fun v => oneDigit_pos_iff, fun v => ?_, nearestMultiple_oneDigit,
    oneDigit_neg, oneDigit_mono, oneDigit_oneDigit, oneDigit_mul_zpow⟩, ?_⟩
  · have hopposite := oneDigit_pos_iff (v := -v)
    rwa [oneDigit_neg, neg_pos, neg_pos] at hopposite
  · intro v e estimate h hestimate
    rw [oneDigitFrom_eq h.ne_zero h hestimate, oneDigit_eq h.ne_zero h]

/-- Just below ten the digit is carried to the next decade, from each of the three estimates. -/
theorem one_digit_rounding_of_carry :
    oneDigitFrom (-1) (-9.5 : ℚ) = oneDigit (-9.5) ∧ oneDigitFrom 0 (-9.5 : ℚ) = oneDigit (-9.5) ∧
      oneDigitFrom 1 (-9.5 : ℚ) = oneDigit (-9.5) ∧ oneDigit (-9.5 : ℚ) = -10 ∧
      NearestMultiple (10 ^ (0 : ℤ)) (-9.5) (oneDigit (-9.5)) ∧ IsOneDigit (oneDigit (-9.5)) := by
  obtain ⟨hrounding, hestimate⟩ := one_digit_rounding
  have hlead : LeadsAt 0 |(-9.5 : ℚ)| := by
    rw [abs_of_neg (by norm_num)]
    exact ⟨by norm_num, by norm_num⟩
  exact ⟨hestimate _ 0 _ hlead (by decide), hestimate _ 0 _ hlead (by decide),
    hestimate _ 0 _ hlead (by decide), by decide +kernel, hrounding.nearest hlead,
    hrounding.isOneDigit (by norm_num)⟩

end ParcelPricing.Amount
