import ParcelPricing.Decimal.Reader
import ParcelPricing.Proofs.DoublePower

/-! Decimals are read as the doubles they round to. -/
namespace ParcelPricing.Double
open Float.Model (UnpackedFloat Format totalExponent)
open Float.Model.UnpackedFloat

/-- How many quarters of a step below a double round to it. Below a power of two the steps are half
as wide. -/
def quartersBelow (m : Nat) (e : Int) : Nat := if m = 2 ^ 52 ∧ -1074 < e then 1 else 2

/-- The rationals that no double is nearer to than `m * 2 ^ e`. Those in the middle between two
doubles go with the even one. -/
structure RoundsTo (v : ℚ) (m : Nat) (e : Int) : Prop where
  low : ((4 * m - quartersBelow m e : Nat) : ℚ) * 2 ^ e ≤ 4 * v
  high : 4 * v ≤ ((4 * m + 2 : Nat) : ℚ) * 2 ^ e
  odd : m % 2 ≠ 0 → ((4 * m - quartersBelow m e : Nat) : ℚ) * 2 ^ e < 4 * v ∧
    4 * v < ((4 * m + 2 : Nat) : ℚ) * 2 ^ e

variable {v : ℚ} {m n d k : Nat} {e e₀ : Int}

theorem units_inj {f : Int} (h : Canonical m e) (h' : Canonical n f)
    (heq : units m e = units n f) : m = n ∧ e = f := by
  rcases lt_trichotomy e f with hlt | rfl | hgt
  · exact absurd heq (units_lt_of_lt h h' hlt).ne
  · exact ⟨Nat.eq_of_mul_eq_mul_right (Nat.two_pow_pos _) heq, rfl⟩
  · exact absurd heq (units_lt_of_lt h' h hgt).ne'

/-- Multiples of a power of two and quarters of a quotient are compared in whole numbers. -/
theorem exists_scale (hd : 0 < d) (n k : Nat) (e : Int) : ∃ c : ℚ, 0 < c ∧
    4 * (n / d * 2 ^ e) = c * (4 * n : Nat) ∧
    ∀ a : Nat, (a : ℚ) * 2 ^ (e + k) = c * (a * (d * 2 ^ k) : Nat) := by
  have hd' : (d : ℚ) ≠ 0 := Nat.cast_ne_zero.2 hd.ne'
  refine ⟨2 ^ e / d, by positivity, ?_, fun a => ?_⟩
  · push_cast
    ring
  · rw [zpow_add₀ two_ne_zero, zpow_natCast]
    push_cast
    field_simp

theorem RoundsTo.whole (hd : 0 < d) (h : RoundsTo (n / d * 2 ^ e) m (e + k)) :
    (4 * m - quartersBelow m (e + k)) * (d * 2 ^ k) ≤ 4 * n ∧ 4 * n ≤ (4 * m + 2) * (d * 2 ^ k) ∧
      (m % 2 ≠ 0 → (4 * m - quartersBelow m (e + k)) * (d * 2 ^ k) < 4 * n ∧
        4 * n < (4 * m + 2) * (d * 2 ^ k)) := by
  obtain ⟨c, hc, hquotient, hmultiple⟩ := exists_scale hd n k e
  obtain ⟨hlow, hhigh, hodd⟩ := h
  simp only [hquotient, hmultiple, mul_le_mul_iff_right₀ hc, mul_lt_mul_iff_right₀ hc, Nat.cast_le,
    Nat.cast_lt] at hlow hhigh hodd
  exact ⟨hlow, hhigh, hodd⟩

theorem lt_two_pow_iff (hd : 0 < d) (n j k : Nat) (e : Int) :
    (n / d * 2 ^ e : ℚ) < 2 ^ (j + (e + k)) ↔ n < 2 ^ j * (d * 2 ^ k) := by
  obtain ⟨c, hc, hquotient, hmultiple⟩ := exists_scale hd n k e
  have hpower : (2 : ℚ) ^ (j + (e + k)) = (2 ^ j : Nat) * 2 ^ (e + k) := by
    rw [zpow_add₀ two_ne_zero, zpow_natCast]
    push_cast
    rfl
  rw [← mul_lt_mul_iff_right₀ (show (0 : ℚ) < 4 by norm_num), hquotient, hpower, hmultiple,
    mul_left_comm, mul_lt_mul_iff_right₀ hc]
  norm_cast
  omega

theorem targetExponent_of_log2 {q : Nat} (hhigh : q < 2 ^ (53 + k))
    (hlow : 2 ^ (52 + k) ≤ q ∨ e + k = -1074) (hleast : -1074 ≤ e + k) :
    Format.binary64.targetExponent (totalExponent q e) = e + k := by
  have hbits : Format.binary64.mantissaBits = 53 := rfl
  have hmin : Format.binary64.minExponent = -1074 := rfl
  rw [Format.targetExponent, totalExponent, hbits, hmin]
  rcases Nat.eq_zero_or_pos q with rfl | hq
  · have hzero : (0 : Nat).log2 = 0 := Nat.log2_zero
    have hpos := Nat.two_pow_pos (52 + k)
    omega
  · have hlog := (Nat.log2_lt hq.ne').2 hhigh
    have hlog' := fun h => (Nat.le_log2 (k := 52 + k) hq.ne').2 h
    omega

theorem RoundsTo.lt_two_pow (h : RoundsTo v m e) (hcanonical : Canonical m e) :
    v < 2 ^ (53 + e) := by
  have hmantissa : ((4 * m + 2 : Nat) : ℚ) < (4 * 2 ^ 53 : Nat) :=
    Nat.cast_lt.2 (by have := hcanonical.mantissa_lt; omega)
  have hstep := mul_lt_mul_of_pos_right hmantissa (show (0 : ℚ) < 2 ^ e by positivity)
  have hhigh := h.high.trans_lt hstep
  rw [zpow_add₀ two_ne_zero]
  push_cast at hhigh
  norm_num at hhigh ⊢
  linarith

/-- Off the narrow gap below a power of two the quotient is rounded at the exponent of the double. -/
theorem RoundsTo.nearestDiv_eq (hd : 0 < d) (hm : 0 < m) (hcanonical : Canonical m (e + k))
    (h : RoundsTo (n / d * 2 ^ e) m (e + k))
    (hwide : quartersBelow m (e + k) = 1 → m * (d * 2 ^ k) ≤ n) :
    nearestDiv n (d * 2 ^ k) = m ∧
      Format.binary64.targetExponent (totalExponent (n / d) e) = e + k := by
  have hlt := hcanonical.mantissa_lt
  obtain ⟨hlow, hhigh, hodd⟩ := h.whole hd
  have hpos : 0 < d * 2 ^ k := Nat.mul_pos hd (Nat.two_pow_pos k)
  have hpower : ∀ j, 2 ^ (j + k) * d = 2 ^ j * (d * 2 ^ k) := fun j => by
    rw [Nat.pow_add, Nat.mul_assoc, Nat.mul_comm (2 ^ k)]
  have hgap : quartersBelow m (e + k) = 1 ∧ m = 2 ^ 52 ∨
      quartersBelow m (e + k) = 2 ∧ ¬ (m = 2 ^ 52 ∧ -1074 < e + k) := by
    rw [quartersBelow]
    split
    · exact Or.inl ⟨rfl, by omega⟩
    · exact Or.inr ⟨rfl, by assumption⟩
  generalize quartersBelow m (e + k) = gap at hlow hodd hwide hgap
  generalize d * 2 ^ k = D at *
  have hgap' : gap ≤ 2 := by omega
  rw [Nat.sub_mul, Nat.mul_assoc] at hlow hodd
  rw [Nat.add_mul, Nat.mul_assoc] at hhigh hodd
  have hbelow : (2 * m - 1) * D = 2 * (m * D) - D := by rw [Nat.sub_mul, Nat.one_mul, Nat.mul_assoc]
  have habove : (2 * m + 1) * D = 2 * (m * D) + D := by rw [Nat.add_mul, Nat.one_mul, Nat.mul_assoc]
  have hmD : D ≤ m * D := Nat.le_mul_of_pos_left D hm
  have hhalf : (2 * m - 1) * D ≤ 2 * n ∧ (m % 2 ≠ 0 → (2 * m - 1) * D < 2 * n) := by
    rcases hgap with ⟨rfl, rfl⟩ | ⟨rfl, -⟩
    · have hwide := hwide rfl
      omega
    · omega
  constructor
  · exact Double.nearestDiv_eq hpos hm hhalf.1 (by omega) fun h => ⟨hhalf.2 h, by omega⟩
  · refine targetExponent_of_log2 ?_ ?_ hcanonical.exponent_ge
    · have hmost : m * D + D ≤ 2 ^ 53 * D := by
        rw [← Nat.succ_mul]
        exact Nat.mul_le_mul_right D hlt
      rw [Nat.div_lt_iff_lt_mul hd, hpower]
      omega
    · rw [Nat.le_div_iff_mul_le hd, hpower]
      rcases hgap with ⟨rfl, rfl⟩ | ⟨rfl, hregular⟩
      · exact Or.inl (hwide rfl)
      · refine or_iff_not_imp_right.2 fun hleast => ?_
        have hge := hcanonical.exponent_ge
        have hfull := hcanonical.full.resolve_right hleast
        have hnext : (2 ^ 52 + 1) * D ≤ m * D := Nat.mul_le_mul_right D (by omega)
        rw [Nat.succ_mul] at hnext
        omega

/-- In the narrow gap below a power of two there is one more bit, and rounding carries into it. -/
theorem RoundsTo.nearestDiv_narrow (hd : 0 < d) (hm : m = 2 ^ 52)
    (hgap : quartersBelow m (e + (k + 1 : Nat)) = 1)
    (h : RoundsTo (n / d * 2 ^ e) m (e + (k + 1 : Nat))) (hleast : -1074 < e + (k + 1 : Nat))
    (hnarrow : n < m * (d * 2 ^ (k + 1))) :
    nearestDiv n (d * 2 ^ k) = 2 * m ∧
      Format.binary64.targetExponent (totalExponent (n / d) e) = e + k := by
  obtain ⟨hlow, -, -⟩ := h.whole hd
  have hpos : 0 < d * 2 ^ k := Nat.mul_pos hd (Nat.two_pow_pos k)
  have hpower : ∀ j, 2 ^ (j + k) * d = 2 ^ j * (d * 2 ^ k) := fun j => by
    rw [Nat.pow_add, Nat.mul_assoc, Nat.mul_comm (2 ^ k)]
  have hdouble : ∀ a, a * (d * 2 ^ (k + 1)) = 2 * (a * (d * 2 ^ k)) := fun a => by
    rw [Nat.pow_succ', Nat.mul_left_comm d, Nat.mul_left_comm]
  rw [hdouble, hgap, Nat.sub_mul, Nat.one_mul, Nat.mul_assoc] at hlow
  rw [hdouble] at hnarrow
  generalize d * 2 ^ k = D at *
  have hbelow : (2 * (2 * m) - 1) * D = 4 * (m * D) - D := by
    rw [Nat.sub_mul, Nat.one_mul, Nat.mul_assoc, Nat.mul_assoc]
    omega
  have habove : (2 * (2 * m) + 1) * D = 4 * (m * D) + D := by
    rw [Nat.add_mul, Nat.one_mul, Nat.mul_assoc, Nat.mul_assoc]
    omega
  have hmD : D ≤ m * D := Nat.le_mul_of_pos_left D (hm ▸ Nat.two_pow_pos 52)
  constructor
  · exact Double.nearestDiv_eq hpos (by omega) (by omega) (by omega) (by omega)
  · subst hm
    refine targetExponent_of_log2 ?_ (Or.inl ?_) (by omega)
    · rw [Nat.div_lt_iff_lt_mul hd, hpower]
      omega
    · rw [Nat.le_div_iff_mul_le hd, hpower]
      omega

/-- A whole part with what is left behind it becomes the double that the quotient rounds to. -/
theorem roundWithAccuracy_of_roundsTo {s : Sign} {accuracy : Accuracy} (hd : 0 < d)
    (haccuracy : .ofMantissaAndAccuracy (n / d) accuracy = quotient n d) (hm : 0 < m)
    (hcanonical : Canonical m e) (h : RoundsTo (n / d * 2 ^ e₀) m e)
    (hlong : ∀ j : Int, (n / d * 2 ^ e₀ : ℚ) < 2 ^ j → e₀ ≤ max (j - 53) (-1074)) :
    roundWithAccuracy .binary64 s (n / d) e₀ accuracy = .finite s m e hm := by
  have hlt := hcanonical.mantissa_lt
  have hleast := hcanonical.exponent_ge
  have hle := hlong _ (h.lt_two_pow hcanonical)
  obtain ⟨k, rfl⟩ : ∃ k : Nat, e = e₀ + k := ⟨(e - e₀).toNat, by omega⟩
  suffices hround : ∃ m' e' hm', roundWithAccuracy .binary64 s (n / d) e₀ accuracy =
      .finite s m' e' hm' ∧ Canonical m' e' ∧ units m' e' = units m (e₀ + k) by
    obtain ⟨m', e', hm', hround, hcanonical', hunits⟩ := hround
    obtain ⟨rfl, rfl⟩ := units_inj hcanonical' hcanonical hunits
    exact hround
  by_cases hwide : quartersBelow m (e₀ + k) = 1 → m * (d * 2 ^ k) ≤ n
  · obtain ⟨hnearest, htarget⟩ := h.nearestDiv_eq hd hm hcanonical hwide
    have hround := roundWithAccuracy_quotient (s := s) hd haccuracy htarget
    rw [hnearest] at hround
    exact hround hm hlt.le hcanonical.full
  · obtain ⟨hgap, hnarrow⟩ := Classical.not_imp.1 hwide
    obtain ⟨hpower, hleast⟩ : m = 2 ^ 52 ∧ -1074 < e₀ + k := by
      rw [quartersBelow] at hgap
      by_contra hne
      rw [if_neg hne] at hgap
      cases hgap
    have hless := hlong _ ((lt_two_pow_iff hd n 52 k e₀).2 (hpower ▸ Nat.not_le.1 hnarrow))
    obtain ⟨k, rfl⟩ : ∃ j : Nat, k = j + 1 := ⟨k - 1, by omega⟩
    obtain ⟨hnearest, htarget⟩ := h.nearestDiv_narrow hd hpower hgap hleast (Nat.not_le.1 hnarrow)
    have hround := roundWithAccuracy_quotient (s := s) hd haccuracy htarget
    rw [hnearest] at hround
    obtain ⟨m', e', hm', hround, hcanonical', hunits⟩ :=
      hround (by omega) (by omega) (Or.inl (by omega))
    refine ⟨m', e', hm', hround, hcanonical', hunits.trans ?_⟩
    have hexponent : (e₀ + (k + 1 : Nat) + 1074).toNat = (e₀ + k + 1074).toNat + 1 := by omega
    rw [units, units, hexponent, Nat.pow_succ', ← Nat.mul_assoc, Nat.mul_comm m 2]

section
variable {m₁ m₂ : Nat} {e₁ e₂ : Int} {h₁ : 0 < m₁} {h₂ : 0 < m₂}

theorem mul_of_roundsTo {hm : 0 < m} (hcanonical : Canonical m e)
    (h : RoundsTo (m₁ * 2 ^ e₁ * (m₂ * 2 ^ e₂)) m e) (hlong : 2 ^ 53 ≤ m₁ * m₂) :
    UnpackedFloat.mul .binary64 (.finite .positive m₁ e₁ h₁) (.finite .positive m₂ e₂ h₂) =
      .finite .positive m e hm := by
  have hproduct : (m₁ * 2 ^ e₁ * (m₂ * 2 ^ e₂) : ℚ) =
      ((m₁ * m₂ : Nat) : ℚ) / (1 : Nat) * 2 ^ (e₁ + e₂) := by
    rw [zpow_add₀ two_ne_zero]
    push_cast
    ring
  rw [hproduct] at h
  have hround := roundWithAccuracy_of_roundsTo (s := .positive) Nat.one_pos
    (ofMantissaAndAccuracy_exact _) hm hcanonical h fun j hj => ?_
  · rw [Nat.div_one] at hround
    exact hround
  · have hmantissa : (2 : ℚ) ^ (53 : Int) ≤ ((m₁ * m₂ : Nat) : ℚ) / (1 : Nat) := by
      rw [Nat.cast_one, div_one]
      exact_mod_cast hlong
    have hpower : (2 : ℚ) ^ (53 + (e₁ + e₂)) < 2 ^ j := by
      rw [zpow_add₀ two_ne_zero]
      exact (mul_le_mul_of_nonneg_right hmantissa (by positivity)).trans_lt hj
    have hlt := (zpow_lt_zpow_iff_right₀ one_lt_two).1 hpower
    omega

theorem div_of_roundsTo {hm : 0 < m} (hcanonical : Canonical m e)
    (h : RoundsTo (m₁ * 2 ^ e₁ / (m₂ * 2 ^ e₂)) m e) :
    UnpackedFloat.div .binary64 (.finite .positive m₁ e₁ h₁) (.finite .positive m₂ e₂ h₂) =
      .finite .positive m e hm := by
  have hbits : Format.binary64.mantissaBits = 53 := rfl
  have hmin : Format.binary64.minExponent = -1074 := rfl
  simp only [UnpackedFloat.div, divCore, Nat.shiftLeft_eq]
  generalize htarget : min (e₁ - e₂)
    (Format.binary64.targetExponent (totalExponent m₁ e₁ - totalExponent m₂ e₂)) = t
  have hquotient : (m₁ * 2 ^ e₁ / (m₂ * 2 ^ e₂) : ℚ) =
      ((m₁ * 2 ^ (e₁ - e₂ - t).toNat : Nat) : ℚ) / m₂ * 2 ^ t := by
    have hexponent : e₁ = (e₁ - e₂ - t).toNat + t + e₂ := by omega
    have hm₂ : (m₂ : ℚ) ≠ 0 := Nat.cast_ne_zero.2 h₂.ne'
    nth_rewrite 1 [hexponent]
    rw [zpow_add₀ two_ne_zero, zpow_add₀ two_ne_zero, zpow_natCast]
    push_cast
    field_simp
  rw [hquotient] at h
  refine roundWithAccuracy_of_roundsTo h₂ (ofMantissaAndAccuracy_eq h₂) hm hcanonical h
    fun j hj => ?_
  rw [← hquotient] at hj
  -- The quotient has at least as many digits before the point as the difference says, but one.
  have hlow : ((2 : ℚ) ^ (m₁.log2 : Int)) ≤ m₁ := by
    exact_mod_cast Nat.log2_self_le h₁.ne'
  have hhigh : (m₂ : ℚ) < 2 ^ ((m₂.log2 + 1 : Nat) : Int) := by
    exact_mod_cast Nat.lt_log2_self
  have hpower : (2 : ℚ) ^ ((m₁.log2 : Int) + e₁ - ((m₂.log2 + 1 : Nat) + e₂)) < 2 ^ j := by
    refine LE.le.trans_lt ?_ hj
    rw [zpow_sub₀ two_ne_zero, zpow_add₀ two_ne_zero, zpow_add₀ two_ne_zero]
    gcongr
  have hlt := (zpow_lt_zpow_iff_right₀ one_lt_two).1 hpower
  rw [Format.targetExponent, totalExponent, totalExponent, hbits, hmin] at htarget
  omega

end

theorem RoundsTo.two_zpow_le (h : RoundsTo v m e) (hm : 0 < m) : (2 : ℚ) ^ e ≤ 2 * v := by
  have hgap : 2 ≤ 4 * m - quartersBelow m e := by
    rw [quartersBelow]
    split <;> omega
  have hstep : ((2 : Nat) : ℚ) * 2 ^ e ≤ ((4 * m - quartersBelow m e : Nat) : ℚ) * 2 ^ e :=
    mul_le_mul_of_nonneg_right (Nat.cast_le.2 hgap) (by positivity)
  have hlow := hstep.trans h.low
  push_cast at hlow
  linarith

theorem RoundsTo.pos (h : RoundsTo v m e) (hm : 0 < m) : 0 < v := by
  have hpos : (0 : ℚ) < 2 ^ e := by positivity
  linarith [h.two_zpow_le hm]

section
variable {x : Int}

theorem RoundsTo.digits_ne_zero (h : RoundsTo (d * 10 ^ x) m e) (hm : 0 < m) : d ≠ 0 := by
  rintro rfl
  have hpos := h.pos hm
  rw [Nat.cast_zero, zero_mul] at hpos
  exact lt_irrefl 0 hpos

/-- A large power of ten makes a double that is as large. -/
theorem RoundsTo.ten_exponent_lt (h : RoundsTo (d * 10 ^ x) m e) (hm : 0 < m)
    (hcanonical : Canonical m e) (hx : 0 ≤ x) : x < 53 + e := by
  have hone : (1 : ℚ) ≤ d := Nat.one_le_cast.2 (Nat.pos_of_ne_zero (h.digits_ne_zero hm))
  have hpower : (2 : ℚ) ^ x < 2 ^ (53 + e) := by
    calc (2 : ℚ) ^ x ≤ 10 ^ x := zpow_le_zpow_left₀ hx zero_le_two (by norm_num)
      _ ≤ d * 10 ^ x := le_mul_of_one_le_left (by positivity) hone
      _ < 2 ^ (53 + e) := h.lt_two_pow hcanonical
  exact (zpow_lt_zpow_iff_right₀ one_lt_two).1 hpower

/-- A small power of ten makes a double that is as small, for as many digits. -/
theorem RoundsTo.exponent_lt (h : RoundsTo (d * 10 ^ x) m e) (hm : 0 < m) (hx : x < 0) :
    e < d.log2 + 2 + x := by
  have hdigits : (d : ℚ) < 2 ^ ((d.log2 : Int) + 1) := by exact_mod_cast Nat.lt_log2_self
  have hten : (10 : ℚ) ^ x ≤ 2 ^ x := by
    obtain ⟨k, rfl⟩ : ∃ k : Nat, x = -k := ⟨x.natAbs, by omega⟩
    rw [zpow_neg, zpow_neg, zpow_natCast, zpow_natCast]
    gcongr
    norm_num
  have hpos : (0 : ℚ) < 2 ^ x := by positivity
  have hpower : (2 : ℚ) ^ e < 2 ^ (d.log2 + 2 + x) := by
    calc (2 : ℚ) ^ e ≤ 2 * (d * 10 ^ x) := h.two_zpow_le hm
      _ ≤ 2 * (d * 2 ^ x) := by gcongr
      _ < 2 * (2 ^ ((d.log2 : Int) + 1) * 2 ^ x) := by gcongr
      _ = 2 ^ (d.log2 + 2 + x) := by
        rw [← zpow_add₀ two_ne_zero, ← zpow_one_add₀ two_ne_zero]
        congr 1
        omega
  exact (zpow_lt_zpow_iff_right₀ one_lt_two).1 hpower

/-- Digits with a power of ten make the double that they round to. -/
theorem ofScientific_of_roundsTo {hm : 0 < m} (hcanonical : Canonical m e)
    (hlast : e ≤ lastExponent) (h : RoundsTo (d * 10 ^ x) m e) :
    UnpackedFloat.ofScientific .binary64 d x = .finite .positive m e hm := by
  have hlastExponent : lastExponent = 971 := rfl
  have hleast := hcanonical.exponent_ge
  have hbits : (2 : Int) ^ Format.binary64.exponentBits = 2048 := rfl
  have hlarge := h.ten_exponent_lt hm hcanonical
  have hsmall := h.exponent_lt hm
  have hd := h.digits_ne_zero hm
  -- The power of ten is neither so large nor so small that the digits no longer matter.
  have hx : ¬ x > 2 ^ Format.binary64.exponentBits := by
    rw [hbits]
    omega
  have hx' : ¬ x < -((2 ^ Format.binary64.exponentBits : Int) + d.log2) := by
    rw [hbits]
    omega
  rw [UnpackedFloat.ofScientific, dif_neg hd, if_neg hx, if_neg hx']
  split
  · rename_i hx
    have hshift : ((d <<< Format.binary64.mantissaBits : Nat) : ℚ) *
        2 ^ (-Format.binary64.mantissaBits : Int) = d := by
      rw [Nat.shiftLeft_eq, zpow_neg, zpow_natCast]
      push_cast
      exact mul_inv_cancel_right₀ (by positivity) _
    have hpower : ((10 ^ x.toNat : Nat) : ℚ) * 2 ^ (0 : Int) = 10 ^ x := by
      lift x to Nat using hx
      push_cast
      simp
    refine mul_of_roundsTo hcanonical (by rwa [hshift, hpower]) ?_
    rw [Nat.shiftLeft_eq, Nat.mul_right_comm]
    exact Nat.le_mul_of_pos_left _ (Nat.mul_pos (Nat.pos_of_ne_zero hd) (Nat.pow_pos (by decide)))
  · have hpower : ((10 ^ (-x).toNat : Nat) : ℚ) * 2 ^ (0 : Int) = (10 ^ x)⁻¹ := by
      obtain ⟨k, rfl⟩ : ∃ k : Nat, x = -k := ⟨x.natAbs, by omega⟩
      push_cast
      simp
    refine div_of_roundsTo hcanonical ?_
    rw [hpower, zpow_zero, mul_one, div_inv_eq_mul]
    exact h

end

theorem value_of_view {x : Float} {hm : 0 < m} (h : view x = .finite .positive m e hm) :
    value x = m * 2 ^ e := by
  have hleast := (canonical_view h).1.exponent_ge
  have hscaled : scaled x = (m * 2 ^ (e + 1074).toNat : Nat) := by
    rw [scaled, h]
    rfl
  have hexponent : ((e + 1074).toNat : Int) = e + point := by
    rw [point_eq]
    omega
  have hpower : ((2 : ℚ) ^ (e + 1074).toNat) = 2 ^ e * 2 ^ point := by
    rw [← zpow_natCast, hexponent, zpow_add₀ two_ne_zero, zpow_natCast]
  rw [value, hscaled]
  push_cast
  rw [hpower, ← mul_assoc, mul_div_cancel_right₀ _ two_pow_point_pos.ne']

theorem FromOne.view_mul {x y : Float} (hx : FromOne x) (hy : FromOne y) {hm : 0 < m}
    (hcanonical : Canonical m e) (hlast : e ≤ lastExponent)
    (h : RoundsTo (value x * value y) m e) : view (x * y) = .finite .positive m e hm := by
  obtain ⟨m₁, e₁, h₁, hviewx, hfullx, -⟩ := hx.exists_view
  obtain ⟨m₂, e₂, h₂, hviewy, hfully, -⟩ := hy.exists_view
  rw [value_of_view hviewx, value_of_view hviewy] at h
  have hlong : 2 ^ 53 ≤ m₁ * m₂ := by
    calc 2 ^ 53 ≤ 2 ^ 52 * 2 ^ 52 := by norm_num
      _ ≤ m₁ * m₂ := Nat.mul_le_mul hfullx hfully
  rw [Double.view_mul, hviewx, hviewy, mul_of_roundsTo hcanonical h hlong, stored_finite hcanonical,
    if_neg hlast.not_gt]

theorem FromOne.view_div {x y : Float} (hx : FromOne x) (hy : FromOne y) {hm : 0 < m}
    (hcanonical : Canonical m e) (hlast : e ≤ lastExponent)
    (h : RoundsTo (value x / value y) m e) : view (x / y) = .finite .positive m e hm := by
  obtain ⟨m₁, e₁, h₁, hviewx, -, -⟩ := hx.exists_view
  obtain ⟨m₂, e₂, h₂, hviewy, -, -⟩ := hy.exists_view
  rw [value_of_view hviewx, value_of_view hviewy] at h
  rw [Double.view_div, hviewx, hviewy, div_of_roundsTo hcanonical h, stored_finite hcanonical,
    if_neg hlast.not_gt]

theorem value_of_scaled {x : Float} (h : scaled x = (d * 2 ^ point : Nat)) : value x = d := by
  rw [value, h]
  push_cast
  exact mul_div_cancel_right₀ _ two_pow_point_pos.ne'

/-- The powers of ten that are doubles are tabulated. -/
theorem fromOne_power (i : Fin Float.exactlyRepresentablePowersOfTen.size) :
    FromOne Float.exactlyRepresentablePowersOfTen[i] ∧
      value Float.exactlyRepresentablePowersOfTen[i] = (10 ^ i.val : Nat) := by
  have hpowers : ∀ i : Fin Float.exactlyRepresentablePowersOfTen.size,
      Amount.IsFinite Float.exactlyRepresentablePowersOfTen[i] ∧
      1.0 ≤ Float.exactlyRepresentablePowersOfTen[i] ∧
      scaled Float.exactlyRepresentablePowersOfTen[i] = (10 ^ i.val * 2 ^ point : Nat) := by
    decide +kernel
  obtain ⟨hfinite, hone, hscaled⟩ := hpowers i
  exact ⟨⟨hfinite, hone⟩, value_of_scaled hscaled⟩

theorem scaled_toFloat (h : d < 2 ^ 53) : scaled d.toUInt64.toFloat = (d * 2 ^ point : Nat) := by
  have hword : d.toUInt64.toNat = d := Nat.mod_eq_of_lt (h.trans (by decide))
  have hbound : d * 2 ^ point < beyond := by
    calc d * 2 ^ point < 2 ^ 53 * 2 ^ point := mul_two_pow_lt _ h
      _ = 2 ^ (53 + point) := (Nat.pow_add ..).symm
      _ ≤ beyond := two_pow_le_beyond (by rw [point_eq]; decide)
  have hnormalize : scaled d.toUInt64.toFloat =
      scaledView (stored (normalize .binary64 d.toUInt64.toNat 0 .positive)) := rfl
  rw [hnormalize, hword, scaledView_normalize (by decide), Int.zero_add, ← Nat.cast_mul]
  have hpoint : (1074 : Int).toNat = point := point_eq.symm
  rw [hpoint]
  change ((limit (d * 2 ^ point) : Nat) : Int) = _
  rw [limit, nearest_mul_two_pow h, if_pos hbound]

theorem fromOne_toFloat (hpos : 0 < d) (h : d < 2 ^ 53) :
    FromOne d.toUInt64.toFloat ∧ value d.toUInt64.toFloat = d := by
  have hscaled := scaled_toFloat h
  have hnumber := isNumber_iff.2 (hasSign_toFloat d.toUInt64).ne_notANumber
  have hone : 2 ^ point ≤ d * 2 ^ point := Nat.le_mul_of_pos_left _ hpos
  have hbound : d * 2 ^ point < 2 ^ 53 * 2 ^ point := mul_two_pow_lt _ h
  have hbeyond : 2 ^ 53 * 2 ^ point ≤ beyond := by
    rw [← Nat.pow_add]
    exact two_pow_le_beyond (by rw [point_eq]; decide)
  refine ⟨⟨isFinite_of_lt hnumber (by omega) (by omega), one_le_iff.2 ⟨hnumber, by omega⟩⟩, ?_⟩
  exact value_of_scaled hscaled

/-- Digits with a power of ten are read as the double that they round to. -/
theorem view_nearest {x : Int} (hm : 0 < m) (hcanonical : Canonical m e) (hlast : e ≤ lastExponent)
    (h : RoundsTo (d * 10 ^ x) m e) : view (Decimal.nearest d x) = .finite .positive m e hm := by
  have hpos := Nat.pos_of_ne_zero (h.digits_ne_zero hm)
  have hstored (hround : UnpackedFloat.ofScientific .binary64 d x = .finite .positive m e hm) :
      stored (UnpackedFloat.ofScientific .binary64 d x) = .finite .positive m e hm := by
    rw [hround, stored_finite hcanonical, if_neg hlast.not_gt]
  have hmodel := hstored (ofScientific_of_roundsTo hcanonical hlast h)
  cases x with
  | ofNat k =>
    have hneg : decide (Int.ofNat k < 0) = false := decide_eq_false (by simp)
    rw [Decimal.nearest, hneg, Float.ofScientific]
    split
    · rename_i hfast
      obtain ⟨hdigits, hvalue⟩ := fromOne_toFloat hpos hfast.1
      obtain ⟨hpower, hvalue'⟩ := fromOne_power ⟨k, Nat.lt_succ_of_le hfast.2⟩
      refine hdigits.view_mul hpower hcanonical hlast ?_
      rw [hvalue, hvalue']
      push_cast
      rwa [← zpow_natCast]
    · exact hmodel
  | negSucc k =>
    have hneg : decide (Int.negSucc k < 0) = true := decide_eq_true (Int.negSucc_lt_zero k)
    rw [Decimal.nearest, hneg, Float.ofScientific]
    split
    · rename_i hfast
      obtain ⟨hdigits, hvalue⟩ := fromOne_toFloat hpos hfast.1
      obtain ⟨hpower, hvalue'⟩ := fromOne_power ⟨k + 1, Nat.lt_succ_of_le hfast.2⟩
      refine hdigits.view_div hpower hcanonical hlast ?_
      rw [hvalue, hvalue']
      push_cast
      rwa [zpow_negSucc, ← div_eq_mul_inv] at h
    · exact hmodel

end ParcelPricing.Double
