import Mathlib.Algebra.Order.Ring.Int
import ParcelPricing.Proofs.DoubleRounding
import ParcelPricing.Proofs.DoubleSign

/-! A sum of doubles that is a number is the exact sum, rounded. -/
namespace ParcelPricing.Double
open Float.Model (UnpackedFloat Format)
open Float.Model.UnpackedFloat

/-- The double nearest to a multiple of the least one, infinity included. -/
def limit (n : Nat) : Nat := if nearest n < beyond then nearest n else 2 * beyond

theorem limit_mono {m n : Nat} (h : m ≤ n) : limit m ≤ limit n := by
  have hnearest := nearest_mono h
  unfold limit
  split <;> split <;> omega

theorem limit_units {m : Nat} {e : Int} (h : Canonical m e) :
    limit (units m e) = if lastExponent < e then 2 * beyond else units m e := by
  rw [limit, nearest_units h]
  split
  · rename_i hlt
    rw [if_neg fun hlast => Nat.not_le.2 hlt (beyond_le_units h hlast)]
  · rename_i hge
    rw [if_pos (Int.not_le.1 fun hlast => hge (units_lt_beyond h hlast))]

theorem limit_of_beyond_le {n : Nat} (h : beyond ≤ n) : limit n = 2 * beyond := by
  refine if_neg (Nat.not_lt.2 ?_)
  calc beyond = nearest beyond := (nearest_two_pow digits).symm
    _ ≤ nearest n := nearest_mono h

/-- The double nearest to a multiple of the least one, with its sign. -/
def clamp : Int → Int
  | .ofNat n => limit n
  | .negSucc n => -limit (n + 1)

theorem clamp_zero : clamp 0 = 0 := congrArg Int.ofNat (if_pos beyond_pos)

theorem clamp_neg (z : Int) : clamp (-z) = -clamp z := by
  cases z with
  | ofNat n =>
    cases n with
    | zero => exact clamp_zero.trans (congrArg Neg.neg clamp_zero).symm
    | succ n => rfl
  | negSucc n => exact (Int.neg_neg _).symm

theorem clamp_mono {z w : Int} (h : z ≤ w) : clamp z ≤ clamp w := by
  cases z with
  | ofNat m =>
    obtain ⟨n, rfl⟩ := Int.eq_ofNat_of_zero_le ((Int.natCast_nonneg m).trans h)
    exact Int.ofNat_le.2 (limit_mono (Int.ofNat_le.1 h))
  | negSucc m =>
    cases w with
    | ofNat n =>
      calc clamp (.negSucc m) ≤ 0 := Int.neg_nonpos_of_nonneg (Int.natCast_nonneg _)
        _ ≤ clamp n := Int.natCast_nonneg _
    | negSucc n =>
      have hle : n + 1 ≤ m + 1 := by omega
      exact Int.neg_le_neg (Int.ofNat_le.2 (limit_mono hle))

theorem clamp_apply (s : Sign) (n : Nat) : clamp (s.apply n) = s.apply (limit n) := by
  cases s with
  | negative => exact clamp_neg n
  | positive => rfl

theorem scaledView_stored_finite {s : Sign} {m : Nat} {e : Int} {hm : 0 < m} (h : Canonical m e) :
    scaledView (stored (.finite s m e hm)) = s.apply (limit (units m e)) := by
  rw [stored_finite h, limit_units h]
  split
  · rfl
  · rfl

/-- What was rounded to the nearest double is stored as that double, or as infinity. -/
theorem scaledView_stored_nearest {s : Sign} {n m : Nat} {e : Int} {hm : 0 < m} (h : Canonical m e)
    (hn : units m e = nearest n) : scaledView (stored (.finite s m e hm)) = s.apply (limit n) := by
  have hnearest : nearest (units m e) = nearest n := by rw [nearest_units h, hn]
  rw [scaledView_stored_finite h, limit, limit, hnearest]

theorem scaledView_round {s : Sign} {m : Nat} {e : Int} (hm : 0 < m) (he : -1074 ≤ e) :
    scaledView (stored (UnpackedFloat.round .binary64 s m e)) = s.apply (limit (units m e)) := by
  obtain ⟨m', e', hm', hround, hcanonical, hunits⟩ := round_eq (s := s) hm he
  rw [hround, scaledView_stored_nearest hcanonical hunits]

theorem scaledView_normalize {s : Sign} {z e : Int} (he : -1074 ≤ e) :
    scaledView (stored (UnpackedFloat.normalize .binary64 z e s)) =
      clamp (z * (2 ^ (e + 1074).toNat : Nat)) := by
  rcases lt_trichotomy z 0 with hneg | rfl | hpos
  · obtain ⟨m, rfl⟩ := Int.exists_eq_neg_ofNat hneg.le
    have hround : UnpackedFloat.normalize .binary64 (-m) e s =
        UnpackedFloat.round .binary64 .negative m e := by
      rw [UnpackedFloat.normalize, compare_lt_iff_lt.2 hneg]
      simp only [Int.neg_neg, Int.toNat_natCast]
    rw [hround, scaledView_round (by omega) he, units, Int.neg_mul, clamp_neg]
    push_cast
    rfl
  · rw [Int.zero_mul, clamp_zero]
    exact congrArg scaledView (stored_zero s)
  · obtain ⟨m, rfl⟩ := Int.eq_ofNat_of_zero_le hpos.le
    have hround : UnpackedFloat.normalize .binary64 m e s =
        UnpackedFloat.round .binary64 .positive m e := by
      rw [UnpackedFloat.normalize, compare_gt_iff_gt.2 hpos]
      rfl
    rw [hround, scaledView_round (Int.natCast_pos.1 hpos) he, units]
    push_cast
    rfl

theorem shiftLeft_mul_eq (m : Nat) {e k : Int} (hk : k ≤ e) (hleast : -1074 ≤ k) :
    m <<< (e - k).toNat * 2 ^ (k + 1074).toNat = units m e := by
  have hexponent : (e + 1074).toNat = (e - k).toNat + (k + 1074).toNat := by omega
  rw [units, hexponent, Nat.shiftLeft_eq, Nat.pow_add, Nat.mul_assoc]

theorem apply_mul (s : Sign) (z w : Int) : s.apply z * w = s.apply (z * w) := by
  cases s with
  | negative => exact Int.neg_mul z w
  | positive => rfl

/-- Doubles are left as they are. -/
theorem clamp_scaledView {u : UnpackedFloat} (h : Fits u) : clamp (scaledView u) = scaledView u := by
  cases u with
  | notANumber => exact clamp_zero
  | infinity s => rw [scaledView, clamp_apply, limit_of_beyond_le (by omega)]
  | zero s => exact clamp_zero
  | finite s m e hm => rw [scaledView, clamp_apply, limit_units h.1, if_neg (Int.not_lt.2 h.2)]

/-- What fits and is finite is stored as it is. -/
theorem stored_of_fits {u : UnpackedFloat} (h : Fits u) : stored u = u := by
  cases u with
  | notANumber => rfl
  | infinity s => exact stored_infinity s
  | zero s => exact stored_zero s
  | finite s m e hm => rw [stored_finite h.1, if_neg (Int.not_lt.2 h.2)]

/-- Finite values are added exactly, and rounded once. -/
theorem scaledView_add {u v : UnpackedFloat} (hu : Fits u) (hv : Fits v)
    (hu' : u.isFinite = true) (hv' : v.isFinite = true) :
    scaledView (stored (UnpackedFloat.add .binary64 u v)) = clamp (scaledView u + scaledView v) := by
  cases u with
  | notANumber => cases hu'
  | infinity s => cases hu'
  | zero s =>
    have hzero : scaledView (.zero s) = 0 := rfl
    rw [hzero, Int.zero_add, clamp_scaledView hv]
    cases v with
    | notANumber => cases hv'
    | infinity s' => cases hv'
    | zero s' => cases s <;> cases s' <;> rfl
    | finite s' n f hn => exact congrArg scaledView (stored_of_fits hv)
  | finite s m e hm =>
    cases v with
    | notANumber => cases hv'
    | infinity s' => cases hv'
    | zero s' =>
      have hzero : scaledView (.zero s') = 0 := rfl
      rw [hzero, Int.add_zero, clamp_scaledView hu]
      exact congrArg scaledView (stored_of_fits hu)
    | finite s' n f hn =>
      have hleast : -1074 ≤ min e f := Int.le_min.2 ⟨hu.1.exponent_ge, hv.1.exponent_ge⟩
      have hm' := shiftLeft_mul_eq m (Int.min_le_left e f) hleast
      have hn' := shiftLeft_mul_eq n (Int.min_le_right e f) hleast
      change scaledView (stored (UnpackedFloat.normalize _ (s.apply _ + s'.apply _) _ _)) = _
      rw [scaledView_normalize hleast, Int.add_mul, apply_mul, apply_mul, ← Int.natCast_mul,
        ← Int.natCast_mul, hm', hn']
      rfl

theorem sub_eq_add_neg (u v : UnpackedFloat) :
    UnpackedFloat.sub .binary64 u v = UnpackedFloat.add .binary64 u v.neg := by
  have hneg : ∀ (s : Sign) (z w : Int), z + (-s).apply w = z - s.apply w := by
    intro s z w
    cases s with
    | negative => exact (Int.sub_neg z w).symm
    | positive => rfl
  cases u with
  | notANumber => rfl
  | infinity s => cases v <;> rfl
  | zero s => cases v <;> rfl
  | finite s m e hm =>
    cases v with
    | notANumber => rfl
    | infinity s' => rfl
    | zero s' => rfl
    | finite s' n f hn => simp only [UnpackedFloat.sub, UnpackedFloat.add, UnpackedFloat.neg, hneg]

theorem neg_apply (s : Sign) (z : Int) : (-s).apply z = -s.apply z := by
  cases s with
  | negative => exact (Int.neg_neg z).symm
  | positive => rfl

theorem scaledView_neg (u : UnpackedFloat) : scaledView u.neg = -scaledView u := by
  cases u with
  | notANumber => rfl
  | infinity s => exact neg_apply s _
  | zero s => rfl
  | finite s m e hm => exact neg_apply s _

theorem clamp_of_beyond_le {s : Sign} {z : Int} (h : beyond ≤ s.apply z) :
    clamp z = scaledView (.infinity s) := by
  obtain ⟨n, hn⟩ := Int.eq_ofNat_of_zero_le ((Int.natCast_nonneg _).trans h)
  have hz : z = s.apply n := by
    cases s with
    | negative => exact (Int.neg_neg z).symm.trans (congrArg _ hn)
    | positive => exact hn
  rw [hn] at h
  rw [hz, clamp_apply, limit_of_beyond_le (Int.ofNat_le.1 h)]
  rfl

/-- An infinity stays what it is, whatever is added to it, unless the sum is no number. -/
theorem infinity_add {s : Sign} {v : UnpackedFloat} (hv : Fits v)
    (h : UnpackedFloat.add .binary64 (.infinity s) v ≠ .notANumber) :
    UnpackedFloat.add .binary64 (.infinity s) v = .infinity s ∧
      clamp (scaledView (.infinity s) + scaledView v) = scaledView (.infinity s) := by
  cases v with
  | notANumber => exact absurd rfl h
  | infinity t =>
    have hst : t = s := by
      cases s
      all_goals cases t
      · rfl
      · exact absurd rfl h
      · exact absurd rfl h
      · rfl
    subst hst
    refine ⟨by cases t <;> rfl, clamp_of_beyond_le ?_⟩
    cases t <;> simp only [scaledView, Sign.apply] <;> omega
  | zero t =>
    refine ⟨rfl, clamp_of_beyond_le ?_⟩
    cases s <;> simp only [scaledView, Sign.apply] <;> omega
  | finite t n f hn =>
    have hlt := units_lt_beyond hv.1 hv.2
    refine ⟨rfl, clamp_of_beyond_le ?_⟩
    cases s <;> cases t <;> simp only [scaledView, Sign.apply] <;> omega

theorem exists_hasSign_normalize (z e : Int) (s : Sign) :
    ∃ t, HasSign t (UnpackedFloat.normalize .binary64 z e s) := by
  rw [UnpackedFloat.normalize]
  split
  · exact ⟨_, hasSign_round ..⟩
  · exact ⟨s, rfl⟩
  · exact ⟨_, hasSign_round ..⟩

/-- Opposite infinities alone have no sum. -/
theorem add_hasSign_or {u v : UnpackedFloat} (hu : u ≠ .notANumber) (hv : v ≠ .notANumber) :
    (∃ s, HasSign s (UnpackedFloat.add .binary64 u v)) ∨ ∃ s, u = .infinity s ∧ v = .infinity (-s) := by
  cases u with
  | notANumber => exact absurd rfl hu
  | infinity s =>
    cases v with
    | notANumber => exact absurd rfl hv
    | infinity t =>
      cases s
      all_goals cases t
      · exact Or.inl ⟨_, rfl⟩
      · exact Or.inr ⟨_, rfl, rfl⟩
      · exact Or.inr ⟨_, rfl, rfl⟩
      · exact Or.inl ⟨_, rfl⟩
    | zero t => exact Or.inl ⟨s, rfl⟩
    | finite t n f hn => exact Or.inl ⟨s, rfl⟩
  | zero s =>
    cases v with
    | notANumber => exact absurd rfl hv
    | infinity t => exact Or.inl ⟨t, rfl⟩
    | zero t => cases s <;> cases t <;> exact Or.inl ⟨_, rfl⟩
    | finite t n f hn => exact Or.inl ⟨t, rfl⟩
  | finite s m e hm =>
    cases v with
    | notANumber => exact absurd rfl hv
    | infinity t => exact Or.inl ⟨t, rfl⟩
    | zero t => exact Or.inl ⟨s, rfl⟩
    | finite t n f hn => exact Or.inl (exists_hasSign_normalize ..)

variable {x y z : Float}

theorem add_comm (x y : Float) : x + y = y + x := by
  refine view_injective ?_
  rw [view_add, view_add]
  congr 1
  cases view x with
  | notANumber => cases view y <;> rfl
  | infinity s =>
    cases view y with
    | infinity t => cases s <;> cases t <;> rfl
    | _ => rfl
  | zero s =>
    cases view y with
    | zero t => cases s <;> cases t <;> rfl
    | _ => rfl
  | finite s m e hm =>
    cases view y with
    | finite t n f hn => simp only [UnpackedFloat.add, min_comm e f, Int.add_comm (s.apply _)]
    | _ => rfl

theorem add_view_ne (h : Amount.IsNumber (x + y)) :
    UnpackedFloat.add .binary64 (view x) (view y) ≠ .notANumber := by
  intro heq
  have hne := isNumber_iff.1 h
  rw [view_add, heq] at hne
  exact hne stored_notANumber

theorem add_of_infinity {s : Sign} (hx : view x = .infinity s) (h : Amount.IsNumber (x + y)) :
    x + y = x := by
  have hne := add_view_ne h
  refine view_injective ?_
  rw [hx] at hne
  rw [view_add, hx, (infinity_add (fits_view y) hne).1, stored_infinity]

theorem isNumber_of_add (h : Amount.IsNumber (x + y)) : Amount.IsNumber x ∧ Amount.IsNumber y := by
  have hne := add_view_ne h
  rw [isNumber_iff, isNumber_iff]
  constructor
  · intro hx
    rw [hx] at hne
    exact hne rfl
  · intro hy
    rw [hy] at hne
    cases hx : view x
    all_goals rw [hx] at hne; exact hne rfl

/-- A number is finite, or it is an infinity and says which. -/
theorem isFinite_or (hx : Amount.IsNumber x) :
    Amount.IsFinite x ∨ ∃ s, view x = .infinity s := by
  have hne := isNumber_iff.1 hx
  have hfinite : x.isFinite = (view x).isFinite := rfl
  rw [isFinite_iff, hfinite]
  cases h : view x with
  | notANumber => exact absurd h hne
  | infinity s => exact Or.inr ⟨s, rfl⟩
  | zero s => exact Or.inl rfl
  | finite s m e hm => exact Or.inl rfl

/-- A sum that is a number is the exact sum, rounded once. -/
theorem scaled_add (h : Amount.IsNumber (x + y)) : scaled (x + y) = clamp (scaled x + scaled y) := by
  obtain ⟨hx, hy⟩ := isNumber_of_add h
  have hinfinity : ∀ {x y : Float} {s : Sign}, Amount.IsNumber (x + y) → view x = .infinity s →
      scaled (x + y) = clamp (scaled x + scaled y) := by
    intro x y s h hx
    have hne := add_view_ne h
    rw [hx] at hne
    rw [add_of_infinity hx h, scaled, scaled, hx, (infinity_add (fits_view y) hne).2]
  rcases isFinite_or hx with hxfin | ⟨s, hs⟩
  · rcases isFinite_or hy with hyfin | ⟨s, hs⟩
    · rw [scaled, view_add]
      exact scaledView_add (fits_view x) (fits_view y) ((isFinite_iff x).1 hxfin)
        ((isFinite_iff y).1 hyfin)
    · rw [add_comm] at h ⊢
      rw [hinfinity h hs, Int.add_comm]
  · exact hinfinity h hs

theorem add_le_add_right (h : x ≤ y) (hx : Amount.IsNumber (x + z)) (hy : Amount.IsNumber (y + z)) :
    x + z ≤ y + z := by
  have hxy := (le_iff.1 h).2.2
  refine le_iff.2 ⟨hx, hy, ?_⟩
  rw [scaled_add hx, scaled_add hy]
  exact clamp_mono (by omega)

theorem isNumber_add_or (hx : Amount.IsNumber x) (hy : Amount.IsNumber y) :
    Amount.IsNumber (x + y) ∨ ∃ s, view x = .infinity s ∧ view y = .infinity (-s) := by
  refine (add_hasSign_or (isNumber_iff.1 hx) (isNumber_iff.1 hy)).imp_left fun hsum => ?_
  obtain ⟨s, hs⟩ := hsum
  exact isNumber_iff.2 hs.stored.ne_notANumber

theorem isNumber_of_isFinite (hx : Amount.IsFinite x) : Amount.IsNumber x := by
  have hfinite : (view x).isFinite = true := (isFinite_iff x).1 hx
  rw [isNumber_iff]
  intro heq
  rw [heq] at hfinite
  cases hfinite

theorem isNumber_add (hx : Amount.IsFinite x) (hy : Amount.IsNumber y) :
    Amount.IsNumber (x + y) := by
  have hfinite : (view x).isFinite = true := (isFinite_iff x).1 hx
  refine (isNumber_add_or (isNumber_of_isFinite hx) hy).resolve_right ?_
  rintro ⟨s, hs, -⟩
  rw [hs] at hfinite
  cases hfinite

theorem neg_neg (u : UnpackedFloat) : u.neg.neg = u := by
  cases u with
  | notANumber => rfl
  | infinity s => cases s <;> rfl
  | zero s => cases s <;> rfl
  | finite s m e hm => cases s <;> rfl

theorem view_neg_eq (x : Float) : view (-x) = (view x).neg := by
  have hfits : Fits (view x).neg := by
    have hview := fits_view x
    cases h : view x with
    | finite s m e hm => rwa [h] at hview
    | _ => trivial
  rw [view_neg, stored_of_fits hfits]

theorem isNumber_neg : Amount.IsNumber (-x) ↔ Amount.IsNumber x := by
  rw [isNumber_iff, isNumber_iff, view_neg_eq, not_iff_not]
  cases view x <;> simp [UnpackedFloat.neg]

theorem sub_eq (x y : Float) : x - y = x + -y := by
  refine view_injective ?_
  rw [view_sub, view_add, view_neg_eq, sub_eq_add_neg]

theorem scaled_neg (x : Float) : scaled (-x) = -scaled x := by
  rw [scaled, view_neg_eq, scaledView_neg]
  rfl

/-- Equal infinities alone have no difference. -/
theorem isNumber_sub_or (hx : Amount.IsNumber x) (hy : Amount.IsNumber y) :
    Amount.IsNumber (x - y) ∨ ∃ s, view x = .infinity s ∧ view y = .infinity s := by
  rw [sub_eq]
  refine (isNumber_add_or hx (isNumber_neg.2 hy)).imp_right ?_
  rintro ⟨s, hs, hview⟩
  rw [view_neg_eq] at hview
  have hopposite := congrArg UnpackedFloat.neg hview
  rw [neg_neg] at hopposite
  exact ⟨s, hs, hopposite.trans (by cases s <;> rfl)⟩

theorem scaled_sub (h : Amount.IsNumber (x - y)) : scaled (x - y) = clamp (scaled x - scaled y) := by
  rw [sub_eq] at h ⊢
  rw [scaled_add h, scaled_neg, Int.sub_eq_add_neg]

/-- The difference from what is no less is never above zero. -/
theorem not_pos_sub (h : x ≤ y) : ¬ 0.0 < x - y := by
  intro hpos
  obtain ⟨-, hnumber, hlt⟩ := lt_iff.1 hpos
  have hxy := (le_iff.1 h).2.2
  rw [scaled_sub hnumber] at hlt
  refine Int.not_lt.2 ?_ hlt
  calc clamp (scaled x - scaled y) ≤ clamp 0 := clamp_mono (by omega)
    _ = 0 := clamp_zero

theorem not_neg_sub (h : y ≤ x) : ¬ x - y < 0.0 := by
  intro hneg
  obtain ⟨hnumber, -, hlt⟩ := lt_iff.1 hneg
  have hxy := (le_iff.1 h).2.2
  rw [scaled_sub hnumber] at hlt
  refine Int.not_lt.2 ?_ hlt
  calc (0 : Int) = clamp 0 := clamp_zero.symm
    _ ≤ clamp (scaled x - scaled y) := clamp_mono (by omega)

theorem clamp_scaled (x : Float) : clamp (scaled x) = scaled x := clamp_scaledView (fits_view x)

/-- What fits beneath a bound is at most what the bound leaves. -/
theorem le_sub_of_add_lt (h : x + y < z) : x ≤ z - y := by
  obtain ⟨hsum, hz, hlt⟩ := lt_iff.1 h
  obtain ⟨hx', hy⟩ := isNumber_of_add hsum
  have hsub : Amount.IsNumber (z - y) := by
    refine (isNumber_sub_or hz hy).resolve_right ?_
    rintro ⟨s, hzs, hys⟩
    -- The sum with an infinity is that infinity again, and does not fit beneath it.
    rw [add_comm] at hsum hlt
    rw [add_of_infinity hys hsum, scaled, scaled, hys, hzs] at hlt
    exact Int.lt_irrefl _ hlt
  refine Amount.Ordered.le_of_not_lt hsub hx' fun hbelow => ?_
  have hbelow := (lt_iff.1 hbelow).2.2
  rw [scaled_sub hsub, ← clamp_scaled x] at hbelow
  have hle : scaled z ≤ scaled x + scaled y := by
    by_contra hgt
    exact Int.not_lt.2 (clamp_mono (by omega)) hbelow
  rw [scaled_add hsum, ← clamp_scaled z] at hlt
  exact Int.not_lt.2 (clamp_mono hle) hlt

theorem sub_zero (x : Float) : x - 0.0 = x := by
  refine view_injective ?_
  have hsub : UnpackedFloat.sub .binary64 (view x) (.zero .positive) = view x := by
    cases view x with
    | zero s => cases s <;> rfl
    | _ => rfl
  exact (congrArg stored hsub).trans (stored_view x)

theorem add_zero_of_ne (h : view x ≠ .zero .negative) : x + 0.0 = x := by
  refine view_injective ?_
  have hadd : UnpackedFloat.add .binary64 (view x) (.zero .positive) = view x := by
    cases hview : view x with
    | zero s =>
      cases s with
      | negative => exact absurd hview h
      | positive => rfl
    | _ => rfl
  exact (congrArg stored hadd).trans (stored_view x)

theorem add_zero_of_hasSign (h : HasSign .positive (view x)) : x + 0.0 = x := by
  refine add_zero_of_ne fun hview => ?_
  rw [hview] at h
  cases h

theorem zero_add_of_hasSign (h : HasSign .positive (view x)) : 0.0 + x = x := by
  rw [add_comm, add_zero_of_hasSign h]

/-- Equal as amounts. Zero has two forms, and what is no number has one. -/
def Same (x y : Float) : Prop := x = y ∨ Amount.IsZero x ∧ Amount.IsZero y

theorem same_add_zero (x : Float) : Same (x + 0.0) x := by
  by_cases hview : view x = .zero .negative
  · obtain rfl : x = -0.0 := view_injective hview
    exact Or.inr ⟨by decide, by decide⟩
  · exact Or.inl (add_zero_of_ne hview)

/-- What leaves something of a number lies below it. -/
theorem lt_of_pos_sub (h : 0.0 < x - y) : y < x := by
  have hsub := (lt_iff.1 h).2.1
  rw [sub_eq] at hsub
  obtain ⟨hx, hy⟩ := isNumber_of_add hsub
  rw [isNumber_neg] at hy
  by_contra hlt
  exact not_pos_sub (Amount.Ordered.le_of_not_lt hy hx hlt) h

theorem zero_add_lt (h : x < y) : 0.0 + x < y := by
  obtain ⟨hx, hy, hlt⟩ := lt_iff.1 h
  have hsum : Amount.IsNumber (0.0 + x) := isNumber_add (by decide) hx
  have hzero : scaled 0.0 = 0 := rfl
  refine lt_iff.2 ⟨hsum, hy, ?_⟩
  rwa [scaled_add hsum, hzero, Int.zero_add, clamp_scaled]

end ParcelPricing.Double
