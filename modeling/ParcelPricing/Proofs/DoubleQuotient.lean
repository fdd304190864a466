import Mathlib.Algebra.Group.Nat.Defs
import Mathlib.Order.Compare
import Mathlib.Order.Nat

namespace ParcelPricing.Double
open Float.Model.UnpackedFloat

/-- The whole number nearest to `n / d`; a half goes to the even neighbour. -/
def nearestDiv (n d : Nat) : Nat :=
  let q := n / d
  let r := n % d
  if 2 * r < d then q else if 2 * r = d then q + q % 2 else q + 1

/-- The whole part of `n / d`, the first bit behind the point, and whether a later one is set. -/
def quotient (n d : Nat) : ExtendedMantissa :=
  ⟨n / d, decide (d ≤ 2 * (n % d)), decide (2 * (n % d) % d ≠ 0)⟩

variable {n d : Nat}

theorem mantissa_quotient (n d : Nat) : (quotient n d).mantissa = n / d := rfl

theorem quotient_one (n : Nat) : quotient n 1 = ⟨n, false, false⟩ := by
  simp [quotient, Nat.mod_one]

theorem mod_double (n d : Nat) : n % (d * 2) = n % d + d * (n / d % 2) := Nat.mod_mul

theorem half_le_iff (hd : 0 < d) : d * 2 ≤ 2 * (n % (d * 2)) ↔ n / d % 2 ≠ 0 := by
  have hr : n % d < d := Nat.mod_lt n hd
  rw [mod_double]
  rcases Nat.mod_two_eq_zero_or_one (n / d) with h | h
  · rw [h, Nat.mul_zero]
    omega
  · rw [h, Nat.mul_one]
    omega

/-- The first bit behind the point and those behind it are all of them. -/
theorem rest_ne_zero_iff (hd : 0 < d) :
    2 * (n % (d * 2)) % (d * 2) ≠ 0 ↔ d ≤ 2 * (n % d) ∨ 2 * (n % d) % d ≠ 0 := by
  have hr : n % d < d := Nat.mod_lt n hd
  have hrest : 2 * (n % (d * 2)) % (d * 2) = 2 * (n % d) := by
    rw [mod_double n d, Nat.mul_add, ← Nat.mul_assoc, Nat.mul_comm 2 d, Nat.add_mul_mod_self_left,
      Nat.mod_eq_of_lt (by omega)]
  rw [hrest]
  constructor
  · intro hne
    rcases Nat.lt_or_ge (2 * (n % d)) d with hlt | hge
    · exact Or.inr (by rwa [Nat.mod_eq_of_lt hlt])
    · exact Or.inl hge
  · rintro h hzero
    rw [hzero, Nat.zero_mod] at h
    exact h.elim (Nat.not_le.2 hd) fun hne => hne rfl

theorem shiftRightOne_quotient (hd : 0 < d) :
    (quotient n d).shiftRightOne = quotient n (d * 2) := by
  rw [ExtendedMantissa.shiftRightOne, quotient, quotient, ExtendedMantissa.mk.injEq]
  refine ⟨Nat.div_div_eq_div_mul .., ?_, ?_⟩
  · rw [Bool.eq_iff_iff, bne_iff_ne, decide_eq_true_iff, half_le_iff hd]
  · rw [← Bool.decide_or, decide_eq_decide, rest_ne_zero_iff hd]

/-- A quotient is shifted right by a larger divisor. -/
theorem shiftRight_quotient (hd : 0 < d) (k : Nat) :
    quotient n d >>> k = quotient n (d * 2 ^ k) := by
  induction k with
  | zero => rw [Nat.pow_zero, Nat.mul_one]; rfl
  | succ k ih =>
    have hstep : quotient n d >>> (k + 1) = (quotient n d >>> k).shiftRightOne := rfl
    rw [hstep, ih, shiftRightOne_quotient (Nat.mul_pos hd (Nat.two_pow_pos k)), Nat.mul_assoc,
      ← Nat.pow_succ]

theorem roundedMantissa_quotient (hd : 0 < d) :
    (quotient n d).roundedMantissa = nearestDiv n d := by
  have hr : n % d < d := Nat.mod_lt n hd
  rw [quotient]
  rcases lt_trichotomy (2 * (n % d)) d with hlt | heq | hgt
  · rw [decide_eq_false (Nat.not_le.2 hlt), nearestDiv, if_pos hlt]
    cases decide (2 * (n % d) % d ≠ 0) <;> rfl
  · have hrest : 2 * (n % d) % d = 0 := by rw [heq, Nat.mod_self]
    rw [decide_eq_true heq.ge, decide_eq_false (not_not_intro hrest), nearestDiv,
      if_neg heq.not_lt, if_pos heq]
    rfl
  · have hrest : 2 * (n % d) % d ≠ 0 := by
      rw [Nat.mod_eq_sub_mod hgt.le, Nat.mod_eq_of_lt (by omega)]
      omega
    rw [decide_eq_true hgt.le, decide_eq_true hrest, nearestDiv, if_neg hgt.not_gt,
      if_neg hgt.ne']
    rfl

/-- What a division leaves says as much as the bits behind the point. -/
theorem ofMantissaAndAccuracy_eq (hd : 0 < d) :
    .ofMantissaAndAccuracy (n / d) (accuracyOfFraction (n % d) d) = quotient n d := by
  have hr : n % d < d := Nat.mod_lt n hd
  rw [accuracyOfFraction, quotient]
  rcases Nat.eq_zero_or_pos (n % d) with hzero | hpos
  · rw [if_pos hzero, hzero, decide_eq_false (by omega), decide_eq_false (by simp)]
    rfl
  · rw [if_neg hpos.ne']
    rcases lt_trichotomy (2 * (n % d)) d with hlt | heq | hgt
    · rw [compare_lt_iff_lt.2 hlt, decide_eq_false (Nat.not_le.2 hlt), Nat.mod_eq_of_lt hlt,
        decide_eq_true (by omega)]
      rfl
    · rw [compare_eq_iff_eq.2 heq, decide_eq_true heq.ge, heq, Nat.mod_self,
        decide_eq_false (by simp)]
      rfl
    · have hrest : 2 * (n % d) % d ≠ 0 := by
        rw [Nat.mod_eq_sub_mod hgt.le, Nat.mod_eq_of_lt (by omega)]
        omega
      rw [compare_gt_iff_gt.2 hgt, decide_eq_true hgt.le, decide_eq_true hrest]
      rfl

theorem ofMantissaAndAccuracy_exact (n : Nat) :
    .ofMantissaAndAccuracy (n / 1) .exact = quotient n 1 := by
  rw [quotient_one, Nat.div_one]
  rfl

/-- What lies within half a step of a whole number is rounded to it, from the ends only if it is
even. -/
theorem nearestDiv_eq {m : Nat} (hd : 0 < d) (hm : 0 < m) (hlow : (2 * m - 1) * d ≤ 2 * n)
    (hhigh : 2 * n ≤ (2 * m + 1) * d)
    (hodd : m % 2 ≠ 0 → (2 * m - 1) * d < 2 * n ∧ 2 * n < (2 * m + 1) * d) :
    nearestDiv n d = m := by
  have hr : n % d < d := Nat.mod_lt n hd
  have hn : d * (n / d) + n % d = n := Nat.div_add_mod n d
  have hlower : (2 * m - 1) * d = 2 * (d * m) - d := by
    rw [Nat.sub_mul, Nat.one_mul, Nat.mul_assoc, Nat.mul_comm m]
  have hupper : (2 * m + 1) * d = 2 * (d * m) + d := by
    rw [Nat.add_mul, Nat.one_mul, Nat.mul_assoc, Nat.mul_comm m]
  rw [hlower] at hlow hodd
  rw [hupper] at hhigh hodd
  have hpos : d ≤ d * m := Nat.le_mul_of_pos_right d hm
  -- Whole parts that differ are a divisor apart.
  have hstep : ∀ {a b : Nat}, a < b → d * a + d ≤ d * b := fun h => Nat.mul_le_mul_left d h
  have hwhole : n / d = m ∨ n / d + 1 = m := by
    rcases lt_trichotomy (n / d) m with hlt | heq | hgt
    · rcases Nat.lt_or_eq_of_le (Nat.succ_le_of_lt hlt) with hless | heq
      · have hless := hstep hless
        rw [Nat.succ_eq_add_one, Nat.mul_succ] at hless
        omega
      · exact Or.inr heq
    · exact Or.inl heq
    · have hgt := hstep hgt
      omega
  simp only [nearestDiv]
  rcases hwhole with heq | heq
  · rw [heq] at hn ⊢
    grind
  · have hprev : d * m = d * (n / d) + d := by rw [← heq, Nat.mul_succ]
    grind

end ParcelPricing.Double
