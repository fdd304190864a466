import ParcelPricing.Decimal.Shortest
import ParcelPricing.Proofs.DoubleNearest

namespace ParcelPricing.Decimal
open Double (RoundsTo quartersBelow)
variable {m n : Nat} {e g : Int} {tieUp : Bool}

/-- What a numeral stands for. -/
def Numeral.worth (n : Numeral) : ℚ := n.digits * 10 ^ n.exponent

theorem zpow_mul_pow_toNat {b : ℚ} (hb : b ≠ 0) (e : Int) : b ^ e * b ^ (-e).toNat = b ^ e.toNat := by
  rw [← zpow_natCast, ← zpow_natCast, ← zpow_add₀ hb]
  congr 1
  omega

namespace Measured

/-- Units and parts measure a power of two and one of ten alike. -/
theorem exists_scale (m : Nat) (e g : Int) : ∃ c : ℚ, 0 < c ∧
    (2 : ℚ) ^ e = c * (of m e g).unit ∧ (10 : ℚ) ^ g = c * (of m e g).parts := by
  have hunit : ((of m e g).unit : ℚ) = 2 ^ e.toNat * 10 ^ (-g).toNat := by simp [of]
  have hparts : ((of m e g).parts : ℚ) = 2 ^ (-e).toNat * 10 ^ g.toNat := by simp [of]
  have hpos : (0 : ℚ) < 2 ^ (-e).toNat * 10 ^ (-g).toNat := by positivity
  refine ⟨(2 ^ (-e).toNat * 10 ^ (-g).toNat)⁻¹, inv_pos.2 hpos, ?_, ?_⟩
  · rw [eq_inv_mul_iff_mul_eq₀ hpos.ne', hunit, ← zpow_mul_pow_toNat two_ne_zero e]
    ring
  · rw [eq_inv_mul_iff_mul_eq₀ hpos.ne', hparts, ← zpow_mul_pow_toNat (by norm_num) g]
    ring

/-- What is accepted rounds to the double. -/
theorem roundsTo_of_accepts (h : (of m e g).accepts n = true) : RoundsTo (n * 10 ^ g) m e := by
  obtain ⟨c, hc, hunit, hparts⟩ := exists_scale m e g
  have hmultiple : ∀ a : Nat, (a : ℚ) * 2 ^ e = c * (a * (of m e g).unit : Nat) := fun a => by
    rw [hunit]
    push_cast
    ring
  have hpoint : (4 : ℚ) * (n * 10 ^ g) = c * (4 * n * (of m e g).parts : Nat) := by
    rw [hparts]
    push_cast
    ring
  have hgap : (if (of m e g).narrowBelow then 1 else 2) = quartersBelow m e := by
    simp [of, quartersBelow]
  have hmantissa : (of m e g).mantissa = m := rfl
  rw [accepts, hgap, hmantissa] at h
  refine ⟨?_, ?_, ?_⟩
  all_goals simp only [hmultiple, hpoint, mul_le_mul_iff_right₀ hc, mul_lt_mul_iff_right₀ hc,
    Nat.cast_le, Nat.cast_lt]
  all_goals grind

/-- What is found is accepted. -/
theorem accepts_of_nearest? {x : Measured} (h : x.nearest? tieUp = some n) :
    x.accepts n = true := by
  unfold nearest? at h
  extract_lets below at h
  split at h
  · cases h
  · rename_i hbelow _
    obtain rfl := Option.some.inj h
    exact hbelow
  · rename_i _ habove
    obtain rfl := Option.some.inj h
    exact habove
  · rename_i hbelow habove
    have heither : n = below ∨ n = below + 1 := by
      split at h
      · exact Or.inl (Option.some.inj h).symm
      · exact Or.inr (Option.some.inj h).symm
      · have hn := Option.some.inj h
        split at hn
        · exact Or.inr hn.symm
        · exact Or.inl hn.symm
    rcases heither with rfl | rfl
    · exact hbelow
    · exact habove

end Measured

theorem worth_trimmed (n : Numeral) : n.trimmed.worth = n.worth := by
  fun_induction Numeral.trimmed n with
  | case1 n hdigits ih =>
    have htens : n.digits = n.digits / 10 * 10 := by omega
    rw [ih, Numeral.worth, Numeral.worth, zpow_add_one₀ (by norm_num)]
    nth_rewrite 2 [htens]
    push_cast
    ring
  | case2 n _ => rfl

theorem worth_exact (m : Nat) (e : Int) : (exact m e).worth = m * 2 ^ e := by
  rw [exact]
  split
  · rename_i he
    lift e to Nat using he
    simp [Numeral.worth]
  · obtain ⟨k, rfl⟩ : ∃ k : Nat, e = -k := ⟨e.natAbs, by omega⟩
    have hten : (10 : ℚ) = 5 * 2 := by norm_num
    simp only [Numeral.worth, neg_neg, Int.toNat_natCast, zpow_neg, zpow_natCast, hten, mul_pow,
      Nat.pow_eq, Nat.cast_mul, Nat.cast_pow, Nat.cast_ofNat]
    field_simp

theorem roundsTo_self (e : Int) (hm : 0 < m) : RoundsTo (m * 2 ^ e) m e := by
  have hpos : (0 : ℚ) < 2 ^ e := by positivity
  have hgap : 4 * m - quartersBelow m e < 4 * m := by
    rw [quartersBelow]
    split <;> omega
  have hlow : ((4 * m - quartersBelow m e : Nat) : ℚ) * 2 ^ e < 4 * (m * 2 ^ e) := by
    rw [← mul_assoc, mul_lt_mul_iff_left₀ hpos]
    exact_mod_cast hgap
  have hhigh : 4 * (m * 2 ^ e) < ((4 * m + 2 : Nat) : ℚ) * 2 ^ e := by
    rw [← mul_assoc, mul_lt_mul_iff_left₀ hpos]
    push_cast
    linarith
  exact ⟨hlow.le, hhigh.le, fun _ => ⟨hlow, hhigh⟩⟩

/-- The shortest decimal of a double rounds to it. -/
theorem roundsTo_shortest (e : Int) (tieUp : Bool) (hm : 0 < m) :
    RoundsTo (shortest m e tieUp).worth m e := by
  unfold shortest
  extract_lets top found
  rw [worth_trimmed]
  cases hfound : found with
  | none =>
    rw [Option.getD_none, worth_exact]
    exact roundsTo_self e hm
  | some n =>
    obtain ⟨count, -, hcount⟩ := List.exists_of_findSome?_eq_some hfound
    obtain ⟨digits, hdigits, rfl⟩ := Option.map_eq_some_iff.1 hcount
    exact Measured.roundsTo_of_accepts (Measured.accepts_of_nearest? hdigits)

/-- The shortest decimal of what is above zero has digits above zero. -/
theorem shortest_pos (e : Int) (tieUp : Bool) (hm : 0 < m) : 0 < (shortest m e tieUp).digits := by
  have hpos := (roundsTo_shortest e tieUp hm).pos hm
  rw [Numeral.worth] at hpos
  exact_mod_cast pos_of_mul_pos_left hpos (by positivity)

end ParcelPricing.Decimal
