import Mathlib
import ParcelPricing.Amount.Double

namespace ParcelPricing.Double
open Float.Model (UnpackedFloat Format)
open Float.Model.UnpackedFloat

/-- The mantissa and the exponent of a double, if the exponent is not too large for one: as many
binary digits as there is room for, unless the exponent is the least. -/
structure Canonical (m : Nat) (e : Int) : Prop where
  mantissa_lt : m < 2 ^ 53
  exponent_ge : -1074 ≤ e
  full : 2 ^ 52 ≤ m ∨ e = -1074

/-- The last exponent of a double. -/
def lastExponent : Int := 971

theorem toNat_implicit (m : BitVec 52) : (1#1 ++ m).toNat = 2 ^ 52 + m.toNat := by
  rw [BitVec.toNat_append, ← Nat.shiftLeft_add_eq_or_of_lt m.isLt]
  rfl

theorem log2_add_one_eq_iff {m : Nat} (hm : 0 < m) (h : m < 2 ^ 53) :
    m.log2 + 1 = Format.binary64.mantissaBits ↔ 2 ^ 52 ≤ m := by
  have hbits : Format.binary64.mantissaBits = 53 := rfl
  rw [hbits, Nat.add_right_cancel_iff, Nat.log2_eq_iff (Nat.ne_of_gt hm)]
  exact and_iff_left h

/-- How a double is packed, in figures. -/
theorem pack_finite {s : Sign} {m : Nat} {e : Int} {hm : 0 < m} (h : Canonical m e) :
    UnpackedFloat.pack .binary64 (.finite s m e hm) =
      if lastExponent < e then packedInfinity .binary64 s
      else if 2 ^ 52 ≤ m then
        packComponents .binary64 s (BitVec.ofNat _ (e + 1075).toNat) (BitVec.ofNat _ m)
      else packComponents .binary64 s 0#_ (BitVec.ofNat _ m) := by
  have hbiased : (e + Format.binary64.exponentBias +
      Format.binary64.mantissaBitsWithoutImplicit).toNat = (e + 1075).toNat := by
    change (e + 1023 + 52).toNat = _
    omega
  have hge := h.exponent_ge
  have hlast : 2 ^ Format.binary64.exponentBits ≤ (e + 1075).toNat + 1 ↔ lastExponent < e := by
    change 2 ^ 11 ≤ _ ↔ 971 < e
    omega
  simp only [UnpackedFloat.pack, hbiased, hlast, log2_add_one_eq_iff hm h.mantissa_lt]

/-- What a value becomes once it is stored as a double. -/
def stored (u : UnpackedFloat) : UnpackedFloat := (Float.Model.pack u).unpack

@[simp] theorem stored_notANumber : stored .notANumber = .notANumber := rfl

@[simp] theorem stored_infinity (s : Sign) : stored (.infinity s) = .infinity s := by
  cases s <;> rfl

@[simp] theorem stored_zero (s : Sign) : stored (.zero s) = .zero s := by
  cases s <;> rfl

/-- Within the bounds of the format a value is stored as it is, and beyond them as infinity. -/
theorem stored_finite {s : Sign} {m : Nat} {e : Int} {hm : 0 < m} (h : Canonical m e) :
    stored (.finite s m e hm) = if lastExponent < e then .infinity s else .finite s m e hm := by
  change UnpackedFloat.unpack .binary64 (UnpackedFloat.pack .binary64 _) = _
  rw [pack_finite h]
  have hge := h.exponent_ge
  have hlt := h.mantissa_lt
  by_cases hlast : lastExponent < e
  · rw [if_pos hlast, if_pos hlast]
    exact stored_infinity s
  · rw [if_neg hlast, if_neg hlast]
    have hle : e ≤ 971 := Int.not_lt.1 hlast
    by_cases hfull : 2 ^ 52 ≤ m
    · rw [if_pos hfull]
      have hexponent : (BitVec.ofNat 11 (e + 1075).toNat).toNat = (e + 1075).toNat := by
        rw [BitVec.toNat_ofNat, Nat.mod_eq_of_lt (by omega)]
      have hones : BitVec.ofNat 11 (e + 1075).toNat ≠ -1#11 := by
        intro heq
        have hnat := congrArg BitVec.toNat heq
        rw [hexponent] at hnat
        change _ = 2047 at hnat
        omega
      have hzero : BitVec.ofNat 11 (e + 1075).toNat ≠ 0#11 := by
        intro heq
        have hnat := congrArg BitVec.toNat heq
        rw [hexponent] at hnat
        change _ = 0 at hnat
        omega
      have hmantissa : (1#1 ++ BitVec.ofNat 52 m).toNat = m := by
        rw [toNat_implicit, BitVec.toNat_ofNat]
        omega
      simp only [UnpackedFloat.unpack, unpackMantissa_packComponents, unpackExponent_packComponents,
        unpackSign_packComponents, Sign.ofBitVec_toBitVec, if_neg hones, if_neg hzero, hmantissa,
        hexponent]
      congr 1
      change ((e + 1075).toNat : Int) - (1023 + 52) = e
      omega
    · rw [if_neg hfull]
      have hmantissa : (BitVec.ofNat 52 m).toNat = m := by
        rw [BitVec.toNat_ofNat, Nat.mod_eq_of_lt (by omega)]
      have hzero : BitVec.ofNat 52 m ≠ 0#52 := by
        intro heq
        have hnat := congrArg BitVec.toNat heq
        rw [hmantissa] at hnat
        change _ = 0 at hnat
        omega
      have hones : (0#11 : BitVec 11) ≠ -1#11 := by decide
      simp only [UnpackedFloat.unpack, unpackMantissa_packComponents, unpackExponent_packComponents,
        unpackSign_packComponents, Sign.ofBitVec_toBitVec, if_neg hones, if_true, dif_neg hzero,
        hmantissa]
      congr 1
      change ((0 : Nat) : Int) - (1023 + 52) + 1 = e
      have hleast := h.full.resolve_left hfull
      omega

/-- Every finite value that is unpacked lies within the bounds of the format. -/
theorem canonical_unpack {b : BitVec Format.binary64.numBits} {s : Sign} {m : Nat} {e : Int}
    {hm : 0 < m} (h : UnpackedFloat.unpack .binary64 b = .finite s m e hm) :
    Canonical m e ∧ e ≤ lastExponent := by
  have hmantissa : (unpackMantissa b).toNat < 2 ^ 52 := (unpackMantissa b).isLt
  have hexponent : (unpackExponent b).toNat < 2 ^ 11 := (unpackExponent b).isLt
  have hbias : ((Format.binary64.exponentBias : Int) +
      Format.binary64.mantissaBitsWithoutImplicit) = 1075 := rfl
  have hlast : lastExponent = 971 := rfl
  simp only [UnpackedFloat.unpack, hbias] at h
  split at h
  · split at h
    · cases h
    · cases h
  · rename_i hones
    have hones' : (unpackExponent b).toNat ≠ 2047 := fun heq => hones (BitVec.eq_of_toNat_eq heq)
    split at h
    · rename_i hzero
      split at h
      · cases h
      · have hleast : (unpackExponent b).toNat = 0 := congrArg BitVec.toNat hzero
        cases h
        exact ⟨⟨by omega, by omega, Or.inr (by omega)⟩, by omega⟩
    · rename_i hzero
      have hzero' : (unpackExponent b).toNat ≠ 0 := fun heq => hzero (BitVec.eq_of_toNat_eq heq)
      simp only [UnpackedFloat.finite.injEq] at h
      obtain ⟨-, rfl, rfl⟩ := h
      have himplicit := toNat_implicit (unpackMantissa b)
      exact ⟨⟨by omega, by omega, Or.inl (by omega)⟩, by omega⟩

variable {x y : Float}

theorem pack_view (x : Float) : Float.Model.pack (view x) = x.toModel := by
  obtain ⟨⟨bits, hvalid⟩⟩ := x
  have hbits := pack_unpack_of_valid hvalid
  simp only [view, Float.Model.unpack, Float.Model.pack, hbits]

theorem view_injective (h : view x = view y) : x = y := by
  have hmodel : x.toModel = y.toModel := by rw [← pack_view, h, pack_view]
  cases x
  cases y
  exact congrArg Float.ofModel hmodel

theorem stored_view (x : Float) : stored (view x) = view x :=
  congrArg Float.Model.unpack (pack_view x)

theorem canonical_view {s : Sign} {m : Nat} {e : Int} {hm : 0 < m}
    (h : view x = .finite s m e hm) : Canonical m e ∧ e ≤ lastExponent :=
  canonical_unpack h

theorem view_add (x y : Float) :
    view (x + y) = stored (UnpackedFloat.add .binary64 (view x) (view y)) := rfl

theorem view_sub (x y : Float) :
    view (x - y) = stored (UnpackedFloat.sub .binary64 (view x) (view y)) := rfl

theorem view_mul (x y : Float) :
    view (x * y) = stored (UnpackedFloat.mul .binary64 (view x) (view y)) := rfl

theorem view_div (x y : Float) :
    view (x / y) = stored (UnpackedFloat.div .binary64 (view x) (view y)) := rfl

theorem view_neg (x : Float) : view (-x) = stored (view x).neg := rfl

/-- The difference of a value from itself: zero, or no number where the value is not finite. -/
theorem sub_self_eq (u : UnpackedFloat) :
    UnpackedFloat.sub .binary64 u u = if u.isFinite then .zero .positive else .notANumber := by
  cases u with
  | notANumber => rfl
  | infinity s => cases s <;> rfl
  | zero s => cases s <;> rfl
  | finite s m e hm =>
    change UnpackedFloat.normalize _ (s.apply _ - s.apply _) _ _ = _
    rw [Int.sub_self]
    rfl

/-- An amount is finite just where its difference from itself is a number. -/
theorem isFinite_iff (x : Float) : Amount.IsFinite x ↔ x.isFinite = true := by
  have hle : Amount.IsFinite x ↔ (view (x - x)).le (view (x - x)) = true := decide_eq_true_iff
  have hfinite : x.isFinite = (view x).isFinite := rfl
  rw [hle, hfinite, view_sub, sub_self_eq]
  cases (view x).isFinite
  · decide
  · decide

theorem view_of_isFinite (h : Amount.IsFinite x) :
    (∃ s, view x = .zero s) ∨ ∃ s m e hm, view x = .finite s m e hm := by
  have hfinite : (view x).isFinite = true := (isFinite_iff x).1 h
  cases hview : view x with
  | notANumber => rw [hview] at hfinite; cases hfinite
  | infinity s => rw [hview] at hfinite; cases hfinite
  | zero s => exact Or.inl ⟨s, rfl⟩
  | finite s m e hm => exact Or.inr ⟨s, m, e, hm, rfl⟩

end ParcelPricing.Double
