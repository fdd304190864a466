import ParcelPricing.Proofs.DoubleOrder
import ParcelPricing.Proofs.DoubleQuotient

/-! How doubles are rounded, a half to the even neighbour. -/
namespace ParcelPricing.Double
open Float.Model (UnpackedFloat Format totalExponent)
open Float.Model.UnpackedFloat

/-- The whole number nearest to `n / 2 ^ k`; a half goes to the even neighbour. -/
def nearestShift (n k : Nat) : Nat :=
  let q := n / 2 ^ k
  let r := n % 2 ^ k
  if 2 * r < 2 ^ k then q else if 2 * r = 2 ^ k then q + q % 2 else q + 1

theorem nearestShift_zero (n : Nat) : nearestShift n 0 = n := by
  simp [nearestShift, Nat.mod_one]

theorem nearestShift_mul (m k j : Nat) : nearestShift (m * 2 ^ j) (k + j) = nearestShift m k := by
  have hj : 0 < 2 ^ j := Nat.two_pow_pos j
  have hlt : 2 * (m % 2 ^ k * 2 ^ j) < 2 ^ k * 2 ^ j ↔ 2 * (m % 2 ^ k) < 2 ^ k := by
    rw [← Nat.mul_assoc, Nat.mul_lt_mul_right hj]
  have heq : 2 * (m % 2 ^ k * 2 ^ j) = 2 ^ k * 2 ^ j ↔ 2 * (m % 2 ^ k) = 2 ^ k := by
    rw [← Nat.mul_assoc, Nat.mul_left_inj (Nat.ne_of_gt hj)]
  simp only [nearestShift, Nat.pow_add, Nat.mul_div_mul_right _ _ hj, Nat.mul_mod_mul_right, hlt, heq]

theorem nearestShift_mul_two_pow (m k : Nat) : nearestShift (m * 2 ^ k) k = m := by
  simpa [nearestShift_zero] using nearestShift_mul m 0 k

theorem div_le_nearestShift (n k : Nat) : n / 2 ^ k ≤ nearestShift n k := by
  simp only [nearestShift]
  grind

theorem nearestShift_le (n k : Nat) : nearestShift n k ≤ n / 2 ^ k + 1 := by
  simp only [nearestShift]
  grind

theorem nearestShift_mono {m n : Nat} (k : Nat) (h : m ≤ n) : nearestShift m k ≤ nearestShift n k := by
  have hq : m / 2 ^ k ≤ n / 2 ^ k := Nat.div_le_div_right h
  rcases Nat.lt_or_eq_of_le hq with hlt | heq
  · calc nearestShift m k ≤ m / 2 ^ k + 1 := nearestShift_le m k
      _ ≤ n / 2 ^ k := hlt
      _ ≤ nearestShift n k := div_le_nearestShift n k
  · have hr : m % 2 ^ k ≤ n % 2 ^ k := by
      have hm := Nat.div_add_mod m (2 ^ k)
      have hn := Nat.div_add_mod n (2 ^ k)
      rw [heq] at hm
      omega
    simp only [nearestShift, heq]
    grind

/-- How many binary digits there is no room for. -/
def spare (n : Nat) : Nat := n.log2 - 52

theorem lt_of_spare (n : Nat) : n < 2 ^ 53 * 2 ^ spare n := by
  rw [← Nat.pow_add]
  rcases Nat.eq_zero_or_pos n with rfl | hn
  · exact Nat.two_pow_pos _
  · rw [← Nat.log2_lt hn.ne', spare]
    omega

theorem le_of_spare {n : Nat} (h : 0 < spare n) : 2 ^ 52 * 2 ^ spare n ≤ n := by
  have hn : n ≠ 0 := by
    rintro rfl
    exact absurd h (by decide)
  rw [← Nat.pow_add, ← Nat.le_log2 hn]
  rw [spare] at h ⊢
  omega

theorem spare_mono {m n : Nat} (h : m ≤ n) : spare m ≤ spare n := by
  rcases Nat.eq_zero_or_pos (spare m) with hzero | hpos
  · rw [hzero]
    exact Nat.zero_le _
  · have hlt : 2 ^ (52 + spare m) < 2 ^ (53 + spare n) := by
      rw [Nat.pow_add, Nat.pow_add]
      exact (le_of_spare hpos).trans_lt (h.trans_lt (lt_of_spare n))
    have hexponent := (Nat.pow_lt_pow_iff_right (by decide)).1 hlt
    omega

/-- The multiple that a multiple of the least double is rounded to, if doubles had no end. -/
def nearest (n : Nat) : Nat := nearestShift n (spare n) * 2 ^ spare n

theorem nearestShift_spare_le (n : Nat) : nearestShift n (spare n) ≤ 2 ^ 53 := by
  have h := nearestShift_mono (spare n) (lt_of_spare n).le
  rwa [nearestShift_mul_two_pow] at h

theorem le_nearestShift_spare {n : Nat} (h : 0 < spare n) : 2 ^ 52 ≤ nearestShift n (spare n) := by
  have h := nearestShift_mono (spare n) (le_of_spare h)
  rwa [nearestShift_mul_two_pow] at h

theorem nearest_mono {m n : Nat} (h : m ≤ n) : nearest m ≤ nearest n := by
  rcases Nat.lt_or_eq_of_le (spare_mono h) with hlt | heq
  · -- The full mantissa of the larger one makes up for whatever the smaller one is rounded to.
    calc nearest m ≤ 2 ^ 53 * 2 ^ spare m := Nat.mul_le_mul_right _ (nearestShift_spare_le m)
      _ = 2 ^ 52 * 2 ^ (spare m + 1) := by rw [← Nat.pow_add, ← Nat.pow_add]; congr 1; omega
      _ ≤ 2 ^ 52 * 2 ^ spare n := Nat.mul_le_mul_left _ (Nat.pow_le_pow_right (by decide) hlt)
      _ ≤ nearest n := Nat.mul_le_mul_right _ (le_nearestShift_spare (by omega))
  · rw [nearest, nearest, heq]
    exact Nat.mul_le_mul_right _ (nearestShift_mono _ h)

theorem log2_mul_two_pow {m : Nat} (k : Nat) (hm : 0 < m) : (m * 2 ^ k).log2 = m.log2 + k := by
  induction k with
  | zero => rw [Nat.pow_zero, Nat.mul_one, Nat.add_zero]
  | succ k ih =>
    have hne : m * 2 ^ k ≠ 0 := (Nat.mul_pos hm (Nat.two_pow_pos k)).ne'
    rw [Nat.pow_succ', Nat.mul_left_comm, Nat.log2_two_mul hne, ih, Nat.add_assoc]

theorem spare_units {m : Nat} {e : Int} (h : Canonical m e) (hm : 0 < m) :
    spare (units m e) = (e + 1074).toNat := by
  have hlt : m.log2 < 53 := (Nat.log2_lt hm.ne').2 h.mantissa_lt
  rw [spare, units, log2_mul_two_pow _ hm]
  rcases h.full with hfull | hleast
  · have hge : 52 ≤ m.log2 := (Nat.le_log2 hm.ne').2 hfull
    omega
  · rw [hleast]
    omega

/-- Whatever has room for its digits is not rounded. -/
theorem nearest_mul_two_pow {m : Nat} (h : m < 2 ^ 53) (k : Nat) :
    nearest (m * 2 ^ k) = m * 2 ^ k := by
  have hspare : spare (m * 2 ^ k) ≤ k := by
    rcases Nat.eq_zero_or_pos m with rfl | hm
    · rw [Nat.zero_mul]
      exact Nat.zero_le k
    · have hlog := (Nat.log2_lt hm.ne').2 h
      rw [spare, log2_mul_two_pow k hm]
      omega
  have hsplit : m * 2 ^ k = m * 2 ^ (k - spare (m * 2 ^ k)) * 2 ^ spare (m * 2 ^ k) := by
    rw [Nat.mul_assoc, ← Nat.pow_add, Nat.sub_add_cancel hspare]
  rw [nearest]
  nth_rewrite 1 [hsplit]
  rw [nearestShift_mul_two_pow, ← hsplit]

theorem nearest_units {m : Nat} {e : Int} (h : Canonical m e) :
    nearest (units m e) = units m e :=
  nearest_mul_two_pow h.mantissa_lt _

theorem nearest_two_pow (k : Nat) : nearest (2 ^ k) = 2 ^ k := by
  have hone := nearest_mul_two_pow (show 1 < 2 ^ 53 by decide) k
  rwa [Nat.one_mul] at hone

theorem targetExponent_eq {m : Nat} {e : Int} (hm : 0 < m) (he : -1074 ≤ e) :
    Format.binary64.targetExponent (totalExponent m e) = (spare (units m e) : Int) - 1074 := by
  have hbits : Format.binary64.mantissaBits = 53 := rfl
  have hleast : Format.binary64.minExponent = -1074 := rfl
  rw [Format.targetExponent, totalExponent, hbits, hleast, spare, units, log2_mul_two_pow _ hm]
  omega

/-- How many bits are shifted out to make room. -/
def excess (m : Nat) (e : Int) : Nat := ((spare (units m e) : Int) - 1074 - e).toNat

theorem shiftToTargetExponent_exact {m : Nat} {e : Int} (hm : 0 < m) (he : -1074 ≤ e) :
    shiftToTargetExponent .binary64 m e .exact =
      (quotient m (2 ^ excess m e), e + excess m e) := by
  have hshift := shiftRight_quotient (n := m) Nat.one_pos (excess m e)
  rw [quotient_one, Nat.one_mul] at hshift
  rw [shiftToTargetExponent, targetExponent_eq hm he, ← hshift]
  rfl

/-- A mantissa that rounding has made too long ends in zeros and is made shorter by one digit. -/
theorem settled {m : Nat} {e : Int} (hm : 0 < m) (he : -1074 ≤ e) (hle : m ≤ 2 ^ 53)
    (hfull : 2 ^ 52 ≤ m ∨ e = -1074) :
    0 < m / 2 ^ excess m e ∧ Canonical (m / 2 ^ excess m e) (e + excess m e) ∧
      units (m / 2 ^ excess m e) (e + excess m e) = units m e := by
  rcases Nat.lt_or_eq_of_le hle with hlt | rfl
  · have hcanonical : Canonical m e := ⟨hlt, he, hfull⟩
    have hexcess : excess m e = 0 := by
      rw [excess, spare_units hcanonical hm]
      omega
    rw [hexcess, Nat.pow_zero, Nat.div_one, Int.natCast_zero, Int.add_zero]
    exact ⟨hm, hcanonical, rfl⟩
  · have hexcess : excess (2 ^ 53) e = 1 := by
      have hlog : (2 ^ 53 : Nat).log2 = 53 := Nat.log2_two_pow
      rw [excess, spare, units, log2_mul_two_pow _ hm, hlog]
      omega
    have hnext : (e + (1 : Nat) + 1074).toNat = (e + 1074).toNat + 1 := by omega
    have hhalf : 2 ^ 53 / 2 ^ 1 = 2 ^ 52 := by decide
    rw [hexcess, hhalf]
    refine ⟨by decide, ⟨by decide, by omega, Or.inl (by decide)⟩, ?_⟩
    rw [units, units, hnext, ← Nat.pow_add, ← Nat.pow_add]
    congr 1
    omega

/-- A quotient is rounded once, to the exponent that its whole part asks for. -/
theorem roundWithAccuracy_quotient {s : Sign} {n d k : Nat} {e : Int} {accuracy : Accuracy}
    (hd : 0 < d) (haccuracy : .ofMantissaAndAccuracy (n / d) accuracy = quotient n d)
    (htarget : Format.binary64.targetExponent (totalExponent (n / d) e) = e + k)
    (hpos : 0 < nearestDiv n (d * 2 ^ k)) (hle : nearestDiv n (d * 2 ^ k) ≤ 2 ^ 53)
    (hfull : 2 ^ 52 ≤ nearestDiv n (d * 2 ^ k) ∨ e + k = -1074) :
    ∃ m' e' hm', roundWithAccuracy .binary64 s (n / d) e accuracy = .finite s m' e' hm' ∧
      Canonical m' e' ∧ units m' e' = units (nearestDiv n (d * 2 ^ k)) (e + k) := by
  have hleast : -1074 ≤ e + k := htarget ▸ le_max_right ..
  have hk : (e + k - e).toNat = k := by omega
  have hshift : shiftToTargetExponent .binary64 (n / d) e accuracy =
      (quotient n (d * 2 ^ k), e + k) := by
    simp only [shiftToTargetExponent, shiftToExponent, htarget, hk, haccuracy,
      shiftRight_quotient hd]
  obtain ⟨hm', hcanonical, hunits⟩ := settled hpos hleast hle hfull
  refine ⟨_, _, hm', ?_, hcanonical, hunits⟩
  simp only [roundWithAccuracy, hshift, shiftToTargetExponent_exact hpos hleast,
    roundedMantissa_quotient (Nat.mul_pos hd (Nat.two_pow_pos k)), mantissa_quotient,
    dif_neg hm'.ne']

/-- A mantissa that is long enough is rounded to the nearest double. -/
theorem roundWithAccuracy_eq {s : Sign} {m : Nat} {e : Int} (hm : 0 < m) (he : -1074 ≤ e)
    (hle : e ≤ (spare (units m e) : Int) - 1074) :
    ∃ m' e' hm', roundWithAccuracy .binary64 s m e .exact = .finite s m' e' hm' ∧
      Canonical m' e' ∧ units m' e' = nearest (units m e) := by
  have hshift : excess m e + (e + 1074).toNat = spare (units m e) := by
    rw [excess]
    omega
  have hrounded : nearestDiv m (1 * 2 ^ excess m e) = nearestShift (units m e) (spare (units m e)) := by
    rw [← hshift, Nat.one_mul]
    exact (nearestShift_mul ..).symm
  have hexponent : (e + excess m e + 1074).toNat = spare (units m e) := by omega
  have htarget : Format.binary64.targetExponent (totalExponent (m / 1) e) = e + excess m e := by
    rw [Nat.div_one, targetExponent_eq hm he]
    omega
  have hpos : 0 < nearestShift (units m e) (spare (units m e)) := by
    rcases Nat.eq_zero_or_pos (spare (units m e)) with hzero | hspare
    · rw [hzero, nearestShift_zero]
      exact units_pos e hm
    · exact (Nat.two_pow_pos 52).trans_le (le_nearestShift_spare hspare)
  have hfull : 2 ^ 52 ≤ nearestShift (units m e) (spare (units m e)) ∨ e + excess m e = -1074 := by
    rcases Nat.eq_zero_or_pos (spare (units m e)) with hzero | hspare
    · exact Or.inr (by omega)
    · exact Or.inl (le_nearestShift_spare hspare)
  obtain ⟨m', e', hm', hround, hcanonical, hunits⟩ := roundWithAccuracy_quotient (s := s)
    Nat.one_pos (ofMantissaAndAccuracy_exact m) htarget (hrounded ▸ hpos)
    (hrounded ▸ nearestShift_spare_le _) (hrounded ▸ hfull)
  refine ⟨m', e', hm', Nat.div_one m ▸ hround, hcanonical, ?_⟩
  rw [hunits, hrounded, units, hexponent, nearest]

/-- A value is rounded to the nearest double. -/
theorem round_eq {s : Sign} {m : Nat} {e : Int} (hm : 0 < m) (he : -1074 ≤ e) :
    ∃ m' e' hm', UnpackedFloat.round .binary64 s m e = .finite s m' e' hm' ∧
      Canonical m' e' ∧ units m' e' = nearest (units m e) := by
  have hround : ∃ k : Nat, UnpackedFloat.round .binary64 s m e =
      roundWithAccuracy .binary64 s (m * 2 ^ k) (e - k) .exact ∧
        k = (e - ((spare (units m e) : Int) - 1074)).toNat := by
    refine ⟨_, ?_, rfl⟩
    simp only [UnpackedFloat.round, targetExponent_eq hm he, decreaseExponent, Nat.shiftLeft_eq]
  obtain ⟨k, hround, hk⟩ := hround
  have hunits : units (m * 2 ^ k) (e - k) = units m e := by
    have hexponent : (e + 1074).toNat = k + (e - k + 1074).toNat := by omega
    rw [units, units, hexponent, Nat.pow_add, Nat.mul_assoc]
  rw [hround, ← hunits]
  exact roundWithAccuracy_eq (Nat.mul_pos hm (Nat.two_pow_pos k)) (by omega)
    (by rw [hunits]; omega)

end ParcelPricing.Double
