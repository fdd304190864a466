import Mathlib.Algebra.Order.Archimedean.Basic
import Mathlib.Algebra.Order.Field.Power
import Mathlib.Algebra.Order.Round
import Mathlib.Data.Rat.Floor
import Mathlib.Tactic.FieldSimp
import Mathlib.Tactic.Linarith
import ParcelPricing.Amount.Exact
import ParcelPricing.Amount.OneDigit

namespace ParcelPricing

namespace Amount

theorem powerOnto_eq (acc a : ℚ) (n : ℕ) : powerOnto acc a n = acc * a ^ n := by
  induction n using Nat.strongRecOn generalizing acc a with
  | ind n ih =>
    have hsplit : a ^ n = a ^ (n % 2) * (a * a) ^ (n / 2) := by
      rw [← pow_two, ← pow_mul, ← pow_add, Nat.mod_add_div]
    have hnext : (if n % 2 = 1 then acc * a else acc) = acc * a ^ (n % 2) := by
      rcases Nat.mod_two_eq_zero_or_one n with h | h
      · rw [h, pow_zero, mul_one, if_neg Nat.zero_ne_one]
      · rw [h, pow_one, if_pos rfl]
    rw [powerOnto, hsplit, hnext]
    by_cases hn : n / 2 = 0
    · simp only [hn, dif_pos, pow_zero, mul_one]
    · simp only [hn, dif_neg, not_false_eq_true]
      rw [ih (n / 2) (by omega), mul_assoc]

theorem powerOfTen_eq (e : ℤ) : (powerOfTen e : ℚ) = 10 ^ e := by
  have hone : (1.0 : ℚ) = 1 := by norm_num
  have hten : (10.0 : ℚ) = 10 := by norm_num
  cases e with
  | ofNat n =>
    rw [powerOfTen, powerOnto_eq]
    simp [hone, hten]
  | negSucc n =>
    rw [powerOfTen, powerOnto_eq]
    simp [hone, hten, zpow_negSucc]

theorem lt_ten_pow_digitCount (n : ℕ) : n < 10 ^ digitCount n :=
  (Nat.length_toDigits_le_iff (by decide) Nat.length_toDigits_pos).1 (le_refl _)

theorem ten_pow_digitCount_le {n : ℕ} (h : 0 < n) : 10 ^ (digitCount n - 1) ≤ n := by
  by_cases hone : digitCount n = 1
  · rw [hone]
    exact h
  · have hpos : 0 < digitCount n := Nat.length_toDigits_pos
    by_contra hlt
    have hle : digitCount n ≤ digitCount n - 1 :=
      (Nat.length_toDigits_le_iff (by decide) (by omega)).2 (not_le.1 hlt)
    omega

/-- The amount has its leading digit at this exponent of ten. -/
def LeadsAt (e : ℤ) (m : ℚ) : Prop := 10 ^ e ≤ m ∧ m < 10 ^ (e + 1)

theorem exists_leadsAt {m : ℚ} (h : 0 < m) : ∃ e, LeadsAt e m :=
  exists_mem_Ico_zpow h (by norm_num)

/-- The lengths of numerator and denominator give the exponent or one more. -/
theorem ratioDecade_bounds {n d : ℕ} (hn : 0 < n) (hd : 0 < d) {e : ℤ}
    (h : LeadsAt e ((n : ℚ) / d)) : ratioDecade n d = e ∨ ratioDecade n d = e + 1 := by
  have hten : (1 : ℚ) < 10 := by norm_num
  have hdpos : (0 : ℚ) < d := Nat.cast_pos.2 hd
  have hn_lt : (n : ℚ) < 10 ^ (digitCount n : ℤ) := by
    rw [zpow_natCast]
    exact_mod_cast lt_ten_pow_digitCount n
  have hd_lt : (d : ℚ) < 10 ^ (digitCount d : ℤ) := by
    rw [zpow_natCast]
    exact_mod_cast lt_ten_pow_digitCount d
  have hn_le : (10 : ℚ) ^ ((digitCount n : ℤ) - 1) ≤ n := by
    have hpos : 0 < digitCount n := Nat.length_toDigits_pos
    have hcast : (digitCount n : ℤ) - 1 = ((digitCount n - 1 : ℕ) : ℤ) := by omega
    rw [hcast, zpow_natCast]
    exact_mod_cast ten_pow_digitCount_le hn
  have hd_le : (10 : ℚ) ^ ((digitCount d : ℤ) - 1) ≤ d := by
    have hpos : 0 < digitCount d := Nat.length_toDigits_pos
    have hcast : (digitCount d : ℤ) - 1 = ((digitCount d - 1 : ℕ) : ℤ) := by omega
    rw [hcast, zpow_natCast]
    exact_mod_cast ten_pow_digitCount_le hd
  obtain ⟨hlow, hhigh⟩ := h
  rw [le_div_iff₀ hdpos] at hlow
  rw [div_lt_iff₀ hdpos] at hhigh
  have hupper : e < digitCount n - digitCount d + 1 := by
    have hpow : (10 : ℚ) ^ (e + (digitCount d - 1)) < 10 ^ (digitCount n : ℤ) := by
      calc (10 : ℚ) ^ (e + (digitCount d - 1)) = 10 ^ e * 10 ^ ((digitCount d : ℤ) - 1) :=
            zpow_add₀ (by norm_num) _ _
        _ ≤ 10 ^ e * d := by gcongr
        _ ≤ n := hlow
        _ < 10 ^ (digitCount n : ℤ) := hn_lt
    have hexp := (zpow_lt_zpow_iff_right₀ hten).1 hpow
    omega
  have hlower : (digitCount n : ℤ) - digitCount d < e + 2 := by
    have hpow : (10 : ℚ) ^ ((digitCount n : ℤ) - 1) < 10 ^ (e + 1 + digitCount d) := by
      calc (10 : ℚ) ^ ((digitCount n : ℤ) - 1) ≤ n := hn_le
        _ < 10 ^ (e + 1) * d := hhigh
        _ ≤ 10 ^ (e + 1) * 10 ^ (digitCount d : ℤ) := by gcongr
        _ = 10 ^ (e + 1 + digitCount d) := (zpow_add₀ (by norm_num) _ _).symm
    have hexp := (zpow_lt_zpow_iff_right₀ hten).1 hpow
    omega
  rw [ratioDecade]
  omega

/-- An estimate that is off by one in either direction is put right. -/
theorem leadingExponent_eq {estimate e : ℤ} {m : ℚ} (h : LeadsAt e m)
    (hestimate : estimate = e - 1 ∨ estimate = e ∨ estimate = e + 1) :
    leadingExponent estimate m = e := by
  obtain ⟨hlow, hhigh⟩ := h
  rw [leadingExponent, powerOfTen_eq, powerOfTen_eq]
  rcases hestimate with rfl | rfl | rfl
  · rw [sub_add_cancel, if_pos hlow]
  · rw [if_neg (not_le.2 hhigh), if_neg (not_lt.2 hlow)]
  · have hnext : (10 : ℚ) ^ (e + 1) ≤ 10 ^ (e + 1 + 1) :=
      zpow_le_zpow_right₀ (by norm_num) (by omega)
    rw [if_neg (not_le.2 (hhigh.trans_le hnext)), if_pos hhigh, add_sub_cancel_right]

theorem magnitude_eq_abs (a : ℚ) : magnitude a = |a| := by
  rw [magnitude]
  split
  · rename_i h
    rw [abs_of_neg h, zero_sub]
  · rename_i h
    exact (abs_of_nonneg (not_lt.1 h)).symm

end Amount

namespace Exact

theorem roundRatio_eq (n d : ℕ) (hd : 0 < d) : (roundRatio n d : ℤ) = ⌊(n : ℚ) / d + 1 / 2⌋ := by
  have hdne : (d : ℚ) ≠ 0 := Nat.cast_ne_zero.2 hd.ne'
  have hsum : (n : ℚ) / d + 1 / 2 = ((2 * n + d : ℕ) : ℚ) / ((2 * d : ℕ) : ℚ) := by
    push_cast
    field_simp
  rw [hsum, Rat.floor_natCast_div_natCast]
  rfl

theorem round_of_nonneg {q : ℚ} (h : 0 ≤ q) : round q = ⌊q + 1 / 2⌋ := by
  have hnum : (q.num.natAbs : ℚ) / q.den = q := by
    rw [Nat.cast_natAbs, abs_of_nonneg (Rat.num_nonneg.2 h), Rat.num_div_den]
  have hround := roundRatio_eq q.num.natAbs q.den q.den_pos
  rw [hnum] at hround
  rw [round, if_pos (Rat.num_nonneg.2 h), hround]
  rfl

theorem round_zero : round 0 = 0 := rfl

theorem round_neg (q : ℚ) : round (-q) = -round q := by
  have habs : (-q).num.natAbs = q.num.natAbs := by rw [Rat.neg_num, Int.natAbs_neg]
  have hopposite : ∀ n : ℕ, Rat.ofInt (-n) = -Rat.ofInt n := fun n => Int.cast_neg (R := ℚ) n
  rcases lt_trichotomy q 0 with h | rfl | h
  · rw [round, round, habs, Rat.neg_den, if_pos (Rat.num_nonneg.2 (neg_nonneg.2 h.le)),
      if_neg (not_le.2 (Rat.num_neg.2 h)), hopposite, neg_neg]
  · simp [round_zero]
  · rw [round, round, habs, Rat.neg_den, if_pos (Rat.num_nonneg.2 h.le),
      if_neg (by simpa using h), hopposite]

end Exact

namespace Amount

/-- A number that is written with one digit and zeros. -/
def IsOneDigit (q : ℚ) : Prop := ∃ d k : ℤ, 1 ≤ |d| ∧ |d| ≤ 9 ∧ q = d * 10 ^ k

/-- Of what is at least one and less than ten, the nearest whole number is a digit or ten. -/
theorem round_mem_digits {x : ℚ} (h : LeadsAt 0 x) :
    ∃ d : ℤ, 1 ≤ d ∧ d ≤ 10 ∧ round x = d ∧ x - 1 / 2 < d ∧ (d : ℚ) ≤ x + 1 / 2 := by
  obtain ⟨hlow, hhigh⟩ := h
  rw [zpow_zero] at hlow
  norm_num at hhigh
  refine ⟨⌊x + 1 / 2⌋, Int.le_floor.2 (by push_cast; linarith), ?_, Exact.round_of_nonneg (by linarith),
    by linarith [Int.sub_one_lt_floor (x + 1 / 2)], Int.floor_le _⟩
  exact Int.lt_add_one_iff.1 (Int.floor_lt.2 (by push_cast; linarith))

theorem isOneDigit_of_le_ten {d : ℤ} (h : 1 ≤ d) (h' : d ≤ 10) (k : ℤ) :
    IsOneDigit (d * 10 ^ k) := by
  by_cases hten : d = 10
  · refine ⟨1, k + 1, by norm_num, by norm_num, ?_⟩
    rw [hten, zpow_add_one₀ (by norm_num)]
    push_cast
    ring
  · exact ⟨d, k, by rw [abs_of_pos (by omega)]; exact h, by rw [abs_of_pos (by omega)]; omega, rfl⟩

theorem roundAt_eq (e : ℤ) (a : ℚ) : roundAt e a = round (a / 10 ^ e) * 10 ^ e := by
  rw [roundAt, powerOfTen_eq, powerOfTen_eq, zpow_neg, ← div_eq_mul_inv]
  split
  · rw [div_inv_eq_mul]
  · rfl

/-- An amount other than zero is rounded at its leading digit, from any estimate that is off by one
at most. -/
theorem oneDigitFrom_eq {estimate e : ℤ} {a : ℚ} (ha : a ≠ 0) (h : LeadsAt e |a|)
    (hestimate : estimate = e - 1 ∨ estimate = e ∨ estimate = e + 1) :
    oneDigitFrom estimate a = round (a / 10 ^ e) * 10 ^ e := by
  have hfinite : IsFinite a := le_refl _
  have hzero : ¬ IsZero a := fun hz => ha (le_antisymm hz.1 hz.2)
  rw [oneDigitFrom, if_neg (not_or.2 ⟨hzero, not_not_intro hfinite⟩), magnitude_eq_abs,
    leadingExponent_eq h hestimate, roundAt_eq]

theorem oneDigit_eq {e : ℤ} {a : ℚ} (ha : a ≠ 0) (h : LeadsAt e |a|) :
    oneDigit a = round (a / 10 ^ e) * 10 ^ e := by
  refine oneDigitFrom_eq ha h (Or.inr ?_)
  have hpos : 0 < |a| := abs_pos.2 ha
  have hratio : ((|a|.num.natAbs : ℕ) : ℚ) / |a|.den = |a| := by
    rw [Nat.cast_natAbs, abs_of_nonneg (Rat.num_nonneg.2 hpos.le), Rat.num_div_den]
  rw [magnitude_eq_abs]
  exact ratioDecade_bounds (Int.natAbs_pos.2 (Rat.num_ne_zero.2 hpos.ne')) |a|.den_pos
    (hratio.symm ▸ h)

theorem oneDigit_zero : oneDigit (0 : ℚ) = 0 := by
  rw [oneDigit, oneDigitFrom, if_pos (Or.inl ⟨le_refl _, le_refl _⟩)]

theorem oneDigit_neg (a : ℚ) : oneDigit (-a) = -oneDigit a := by
  rcases eq_or_ne a 0 with rfl | ha
  · rw [neg_zero, oneDigit_zero, neg_zero]
  · obtain ⟨e, he⟩ := exists_leadsAt (abs_pos.2 ha)
    have hround : round (-(a / 10 ^ e)) = -round (a / 10 ^ e) := Exact.round_neg _
    rw [oneDigit_eq ha he, oneDigit_eq (neg_ne_zero.2 ha) ((abs_neg a).symm ▸ he), neg_div, hround,
      neg_mul]

theorem LeadsAt.div_zpow {e : ℤ} {a : ℚ} (h : LeadsAt e a) : LeadsAt 0 (a / 10 ^ e) := by
  have hpow : (0 : ℚ) < 10 ^ e := zpow_pos (by norm_num) e
  obtain ⟨hlow, hhigh⟩ := h
  rw [zpow_add₀ (by norm_num), mul_comm] at hhigh
  constructor
  · rwa [zpow_zero, le_div_iff₀ hpow, one_mul]
  · rwa [zero_add, div_lt_iff₀ hpow]

/-- The digit that an amount above zero is rounded to, or ten. -/
theorem exists_digit {e : ℤ} {a : ℚ} (ha : 0 < a) (h : LeadsAt e a) : ∃ d : ℤ, 1 ≤ d ∧ d ≤ 10 ∧
    oneDigit a = d * 10 ^ e ∧ a / 10 ^ e - 1 / 2 < d ∧ d ≤ a / 10 ^ e + 1 / 2 := by
  obtain ⟨d, hone, hten, hround, hlow, hhigh⟩ := round_mem_digits h.div_zpow
  refine ⟨d, hone, hten, ?_, hlow, hhigh⟩
  rw [oneDigit_eq ha.ne' ((abs_of_pos ha).symm ▸ h), hround]

/-- An amount above zero is rounded to one digit, and loses less than a third, which it would lose
just below one and a half. -/
theorem oneDigit_of_pos {a : ℚ} (h : 0 < a) :
    IsOneDigit (oneDigit a) ∧ 2 / 3 * a < oneDigit a := by
  obtain ⟨e, he⟩ := exists_leadsAt h
  have hpow : (0 : ℚ) < 10 ^ e := zpow_pos (by norm_num) e
  have hscaled : a = a / 10 ^ e * 10 ^ e := (div_mul_cancel₀ a hpow.ne').symm
  obtain ⟨d, hone, hten, hdigit, hlow, -⟩ := exists_digit h he
  rw [hdigit]
  refine ⟨isOneDigit_of_le_ten hone hten e, ?_⟩
  have hthird : 2 / 3 * (a / 10 ^ e) < d := by
    have hone' : (1 : ℚ) ≤ d := by exact_mod_cast hone
    rcases lt_or_ge (a / 10 ^ e) (3 / 2) with hsmall | hlarge
    · linarith
    · linarith
  calc 2 / 3 * a = 2 / 3 * (a / 10 ^ e) * 10 ^ e := by rw [mul_assoc, ← hscaled]
    _ < d * 10 ^ e := by gcongr

theorem oneDigit_nonpos {a : ℚ} (h : a ≤ 0) : oneDigit a ≤ 0 := by
  rcases h.lt_or_eq with hneg | rfl
  · have hpos := (oneDigit_of_pos (neg_pos.2 hneg)).2
    rw [oneDigit_neg] at hpos
    linarith
  · exact oneDigit_zero.le

end Amount

end ParcelPricing
