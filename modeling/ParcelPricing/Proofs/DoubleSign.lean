import ParcelPricing.Amount.OneDigit
import ParcelPricing.Proofs.DoubleOrder

namespace ParcelPricing.Double
open Float.Model (UnpackedFloat Format)
open Float.Model.UnpackedFloat

/-- A number of this sign. -/
def HasSign (s : Sign) : UnpackedFloat → Prop
  | .notANumber => False
  | .infinity s' => s' = s
  | .zero s' => s' = s
  | .finite s' _ _ _ => s' = s

theorem HasSign.ne_notANumber {s : Sign} {u : UnpackedFloat} (h : HasSign s u) :
    u ≠ .notANumber := by
  rintro rfl
  exact h

theorem hasSign_unpack {b : BitVec Format.binary64.numBits} (h : unpackExponent b ≠ -1#_) :
    HasSign (Sign.ofBitVec (unpackSign b)) (UnpackedFloat.unpack .binary64 b) := by
  simp only [UnpackedFloat.unpack, if_neg h]
  split
  · split
    · rfl
    · rfl
  · rfl

/-- What is a number stays one of its sign when it is stored. -/
theorem HasSign.stored {s : Sign} {u : UnpackedFloat} (h : HasSign s u) : HasSign s (stored u) := by
  cases u with
  | notANumber => exact h.elim
  | infinity s' => rwa [stored_infinity]
  | zero s' => rwa [stored_zero]
  | finite s' m e hm =>
    obtain rfl : s' = s := h
    change HasSign s' (UnpackedFloat.unpack .binary64 (UnpackedFloat.pack .binary64 _))
    have hpacked : ∀ {e : BitVec 11} {m : BitVec 52}, e ≠ -1#11 →
        HasSign s' (UnpackedFloat.unpack .binary64 (packComponents .binary64 s' e m)) := by
      intro e m he
      have hsign := hasSign_unpack (b := packComponents .binary64 s' e m)
        (by rwa [unpackExponent_packComponents])
      rwa [unpackSign_packComponents, Sign.ofBitVec_toBitVec] at hsign
    simp only [UnpackedFloat.pack]
    split
    · exact (congrArg (HasSign s') (stored_infinity s')).mpr rfl
    · rename_i hexponent
      split
      · refine hpacked fun heq => ?_
        have hnat := congrArg BitVec.toNat heq
        rw [BitVec.toNat_ofNat] at hnat
        change _ % 2048 = 2047 at hnat
        change ¬ 2048 ≤ _ at hexponent
        omega
      · exact hpacked (by decide)

theorem hasSign_roundWithAccuracy (s : Sign) (m : Nat) (e : Int) (a : Accuracy) :
    HasSign s (roundWithAccuracy .binary64 s m e a) := by
  simp only [roundWithAccuracy]
  split
  · rfl
  · rfl

/-- A number of this sign, or no number at all. -/
def Signed (s : Sign) (u : UnpackedFloat) : Prop := u ≠ .notANumber → HasSign s u

theorem HasSign.signed {s : Sign} {u : UnpackedFloat} (h : HasSign s u) : Signed s u := fun _ => h

theorem signed_mul {s s' : Sign} {u v : UnpackedFloat} (hu : Signed s u) (hv : Signed s' v) :
    Signed (s * s') (UnpackedFloat.mul .binary64 u v) := by
  intro h
  have hu : HasSign s u := hu (by rintro rfl; exact h rfl)
  have hv : HasSign s' v := hv (by rintro rfl; cases u <;> exact h rfl)
  cases u with
  | notANumber => exact hu.elim
  | infinity t =>
    cases hu
    cases v with
    | notANumber => exact hv.elim
    | zero t' => exact absurd rfl h
    | infinity t' => cases hv; rfl
    | finite t' n f hn => cases hv; rfl
  | zero t =>
    cases hu
    cases v with
    | notANumber => exact hv.elim
    | infinity t' => exact absurd rfl h
    | zero t' => cases hv; rfl
    | finite t' n f hn => cases hv; rfl
  | finite t m e hm =>
    cases hu
    cases v with
    | notANumber => exact hv.elim
    | infinity t' => cases hv; rfl
    | zero t' => cases hv; rfl
    | finite t' n f hn => cases hv; exact hasSign_roundWithAccuracy ..

theorem signed_div {s s' : Sign} {u v : UnpackedFloat} (hu : Signed s u) (hv : Signed s' v) :
    Signed (s / s') (UnpackedFloat.div .binary64 u v) := by
  intro h
  have hu : HasSign s u := hu (by rintro rfl; exact h rfl)
  have hv : HasSign s' v := hv (by rintro rfl; cases u <;> exact h rfl)
  cases u with
  | notANumber => exact hu.elim
  | infinity t =>
    cases hu
    cases v with
    | notANumber => exact hv.elim
    | infinity t' => exact absurd rfl h
    | zero t' => cases hv; rfl
    | finite t' n f hn => cases hv; rfl
  | zero t =>
    cases hu
    cases v with
    | notANumber => exact hv.elim
    | zero t' => exact absurd rfl h
    | infinity t' => cases hv; rfl
    | finite t' n f hn => cases hv; rfl
  | finite t m e hm =>
    cases hu
    cases v with
    | notANumber => exact hv.elim
    | infinity t' => cases hv; rfl
    | zero t' => cases hv; rfl
    | finite t' n f hn => cases hv; exact hasSign_roundWithAccuracy ..

theorem Signed.stored {s : Sign} {u : UnpackedFloat} (h : Signed s u) : Signed s (stored u) := by
  by_cases hu : u = .notANumber
  · subst hu
    exact fun hne => absurd rfl hne
  · exact (h hu).stored.signed

theorem HasSign.neg {s : Sign} {u : UnpackedFloat} (h : HasSign s u) : HasSign (-s) u.neg := by
  cases u with
  | notANumber => exact h
  | infinity t => exact congrArg _ h
  | zero t => exact congrArg _ h
  | finite t m e hm => exact congrArg _ h

/-- A number times a finite one other than zero is a number. -/
theorem HasSign.mul_finite {s : Sign} {u : UnpackedFloat} (h : HasSign s u) (s' : Sign) {m : Nat}
    (e : Int) (hm : 0 < m) : HasSign (s * s') (UnpackedFloat.mul .binary64 u (.finite s' m e hm)) := by
  cases u with
  | notANumber => exact h.elim
  | infinity t => cases h; rfl
  | zero t => cases h; rfl
  | finite t n f hn => cases h; exact hasSign_roundWithAccuracy ..

theorem HasSign.div_finite {s : Sign} {u : UnpackedFloat} (h : HasSign s u) (s' : Sign) {m : Nat}
    (e : Int) (hm : 0 < m) : HasSign (s / s') (UnpackedFloat.div .binary64 u (.finite s' m e hm)) := by
  cases u with
  | notANumber => exact h.elim
  | infinity t => cases h; rfl
  | zero t => cases h; rfl
  | finite t n f hn => cases h; exact hasSign_roundWithAccuracy ..

theorem hasSign_round (s : Sign) (m : Nat) (e : Int) :
    HasSign s (UnpackedFloat.round .binary64 s m e) := hasSign_roundWithAccuracy ..

theorem hasSign_ofScientific (m : Nat) (e : Int) :
    HasSign .positive (UnpackedFloat.ofScientific .binary64 m e) := by
  simp only [UnpackedFloat.ofScientific]
  split
  · rfl
  · split
    · rfl
    · split
      · rfl
      · split
        · exact hasSign_roundWithAccuracy ..
        · exact hasSign_roundWithAccuracy ..

theorem hasSign_toFloat (n : UInt64) : HasSign .positive (view n.toFloat) := by
  have hofNat : ∀ n : Nat, HasSign .positive (UnpackedFloat.ofNat .binary64 n) := by
    intro n
    cases n with
    | zero => rfl
    | succ n => exact hasSign_round ..
  exact (hofNat n.toNat).stored

theorem hasSign_ofNat (n : Nat) : HasSign .positive (view (Float.ofNat n)) := by
  rw [Float.ofNat]
  simp only [OfScientific.ofScientific, Float.ofScientific]
  split
  · have hone : view Float.exactlyRepresentablePowersOfTen[0] =
        .finite .positive (2 ^ 52) (-52) (Nat.two_pow_pos 52) := rfl
    rw [if_neg Bool.false_ne_true, view_mul, hone]
    exact ((hasSign_toFloat _).mul_finite .positive _ _).stored
  · exact (hasSign_ofScientific n 0).stored

/-- Rounding keeps the sign, and leaves what is no number as it is. -/
theorem HasSign.round {s : Sign} {x : Float} (h : HasSign s (view x)) :
    HasSign s (view (round x)) := by
  unfold Double.round
  split
  · rename_i t m k hm hview
    rw [hview] at h
    obtain rfl : t = s := h
    cases t with
    | negative => exact (hasSign_ofNat _).neg.stored
    | positive => exact hasSign_ofNat _
  · exact h

theorem Signed.round {s : Sign} {x : Float} (h : Signed s (view x)) :
    Signed s (view (round x)) := by
  by_cases hx : view x = .notANumber
  · have hround : Double.round x = x := by
      unfold Double.round
      rw [hx]
    rwa [hround]
  · exact (h hx).round.signed

variable {x y : Float} {s : Sign}

theorem Signed.scaledView {u : UnpackedFloat} (h : Signed s u) :
    ∃ n : Nat, scaledView u = s.apply n := by
  cases u with
  | notANumber => exact ⟨0, by cases s <;> rfl⟩
  | infinity t => exact ⟨2 * beyond, congrArg (Sign.apply · _) (h nofun)⟩
  | zero t => exact ⟨0, by cases s <;> rfl⟩
  | finite t m e hm => exact ⟨units m e, congrArg (Sign.apply · _) (h nofun)⟩

theorem Signed.not_neg (h : Signed .positive (view x)) : ¬ x < 0.0 := by
  intro hneg
  obtain ⟨n, hn⟩ := h.scaledView
  have hlt : scaled x < 0 := (lt_iff.1 hneg).2.2
  rw [scaled, hn] at hlt
  exact Int.not_lt.2 (Int.natCast_nonneg n) hlt

theorem Signed.not_pos (h : Signed .negative (view x)) : ¬ 0.0 < x := by
  intro hpos
  obtain ⟨n, hn⟩ := h.scaledView
  have hlt : 0 < scaled x := (lt_iff.1 hpos).2.2
  rw [scaled, hn] at hlt
  exact Int.not_lt.2 (Int.neg_nonpos_of_nonneg (Int.natCast_nonneg n)) hlt

theorem exists_hasSign (h : Amount.IsNumber x) : ∃ s, HasSign s (view x) := by
  have hne := isNumber_iff.1 h
  cases hview : view x with
  | notANumber => exact absurd hview hne
  | infinity s => exact ⟨s, rfl⟩
  | zero s => exact ⟨s, rfl⟩
  | finite s m e hm => exact ⟨s, rfl⟩

theorem hasSign_of_pos (h : 0.0 < x) : HasSign .positive (view x) := by
  obtain ⟨s, hs⟩ := exists_hasSign (lt_iff.1 h).2.1
  cases s with
  | negative => exact absurd h hs.signed.not_pos
  | positive => exact hs

theorem isNumber_zero : Amount.IsNumber (0.0 : Float) := by decide

theorem isZero_of_neither (hx : Amount.IsNumber x) (hpos : ¬ 0.0 < x) (hneg : ¬ x < 0.0) :
    Amount.IsZero x :=
  ⟨Amount.Ordered.le_of_not_lt isNumber_zero hx hpos,
    Amount.Ordered.le_of_not_lt hx isNumber_zero hneg⟩

/-- What is not above zero and is not zero either is negative or no number. -/
theorem signed_of_not_pos (h : ¬ 0.0 < x) (hzero : ¬ Amount.IsZero x) :
    Signed .negative (view x) := by
  intro hx
  have hnumber : Amount.IsNumber x := isNumber_iff.2 hx
  obtain ⟨s, hs⟩ := exists_hasSign hnumber
  cases s with
  | negative => exact hs
  | positive => exact absurd (isZero_of_neither hnumber h hs.signed.not_neg) hzero

theorem signed_of_not_neg (h : ¬ x < 0.0) (hzero : ¬ Amount.IsZero x) :
    Signed .positive (view x) := by
  intro hx
  have hnumber : Amount.IsNumber x := isNumber_iff.2 hx
  obtain ⟨s, hs⟩ := exists_hasSign hnumber
  cases s with
  | negative => exact absurd (isZero_of_neither hnumber hs.signed.not_pos h) hzero
  | positive => exact hs

section Powers
open Amount

theorem Signed.mul_pos (hx : Signed s (view x)) (hy : Signed .positive (view y)) :
    Signed s (view (x * y)) := by
  have hs : s * .positive = s := by cases s <;> rfl
  have hproduct := (signed_mul hx hy).stored
  rwa [hs, ← view_mul] at hproduct

theorem Signed.div_pos (hx : Signed s (view x)) (hy : Signed .positive (view y)) :
    Signed s (view (x / y)) := by
  have hs : s / .positive = s := by cases s <;> rfl
  have hquotient := (signed_div hx hy).stored
  rwa [hs, ← view_div] at hquotient

/-- What products keep, the powers that are found by squaring keep. -/
theorem powerOnto_of_mul {P : Float → Prop} (hmul : ∀ {x y}, P x → P y → P (x * y)) (n : Nat)
    (hx : P x) (hy : P y) : P (powerOnto x y n) := by
  induction n using Nat.strongRecOn generalizing x y with
  | ind n ih =>
    have hnext : P (if n % 2 = 1 then x * y else x) := by
      split
      · exact hmul hx hy
      · exact hx
    rw [powerOnto]
    by_cases hn : n / 2 = 0
    · simpa only [hn, dif_pos] using hnext
    · simp only [hn, dif_neg, not_false_eq_true]
      exact ih (n / 2) (by omega) hnext (hmul hy hy)

/-- The powers in use are never below zero, whether or not they are too large for a double. -/
theorem signed_powerOfTen (e : Int) : Signed .positive (view (powerOfTen e : Float)) := by
  have hone : Signed .positive (view 1.0) := (hasSign_of_pos (by decide)).signed
  have hten : Signed .positive (view 10.0) := (hasSign_of_pos (by decide)).signed
  have hpower : ∀ n, Signed .positive (view (powerOnto 1.0 10.0 n)) := fun n =>
    powerOnto_of_mul (P := fun x => Signed .positive (view x)) Signed.mul_pos n hone hten
  cases e with
  | ofNat n => exact hpower n
  | negSucc n => exact (signed_div hone (hpower (n + 1))).stored

theorem Signed.roundAt (h : Signed s (view x)) (e : Int) : Signed s (view (roundAt e x)) := by
  rw [Amount.roundAt]
  split
  · exact (h.mul_pos (signed_powerOfTen _)).round.div_pos (signed_powerOfTen _)
  · exact (h.div_pos (signed_powerOfTen _)).round.mul_pos (signed_powerOfTen _)

theorem Signed.oneDigit (h : Signed s (view x)) : Signed s (view (oneDigit x)) := by
  rw [Amount.oneDigit, oneDigitFrom]
  split
  · exact h
  · exact h.roundAt _

theorem oneDigit_of_isZero (h : IsZero x) : oneDigit x = x := if_pos (Or.inl h)

theorem not_pos_oneDigit (h : ¬ 0.0 < x) : ¬ 0.0 < oneDigit x := by
  by_cases hzero : IsZero x
  · rwa [oneDigit_of_isZero hzero]
  · exact (signed_of_not_pos h hzero).oneDigit.not_pos

theorem not_neg_oneDigit (h : ¬ x < 0.0) : ¬ oneDigit x < 0.0 := by
  by_cases hzero : IsZero x
  · rwa [oneDigit_of_isZero hzero]
  · exact (signed_of_not_neg h hzero).oneDigit.not_neg

end Powers

end ParcelPricing.Double
