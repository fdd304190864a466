import Mathlib.Order.Basic
import ParcelPricing.Proofs.DoubleView
import ParcelPricing.Proofs.LeastPrice

/-! The order of doubles is that of whole numbers. -/
namespace ParcelPricing.Double
open Float.Model (UnpackedFloat Format)
open Float.Model.UnpackedFloat

/-- How often the least double is contained in a mantissa with an exponent. -/
def units (m : Nat) (e : Int) : Nat := m * 2 ^ (e + 1074).toNat

/-- How many binary digits the largest double has before its end. -/
@[irreducible] def digits : Nat := 2098

/-- The first power of two beyond all doubles. -/
def beyond : Nat := 2 ^ digits

def scaledView : UnpackedFloat → Int
  | .notANumber => 0
  | .infinity s => s.apply (2 * beyond : Nat)
  | .zero _ => 0
  | .finite s m e _ => s.apply (units m e)

/-- A double as a multiple of the least one above zero. What is no number counts as zero. -/
def scaled (x : Float) : Int := scaledView (view x)

theorem mul_two_pow_lt {m n : Nat} (k : Nat) (h : m < n) : m * 2 ^ k < n * 2 ^ k :=
  Nat.mul_lt_mul_of_pos_right h (Nat.two_pow_pos k)

theorem digits_eq : digits = 2098 := by
  rw [digits]

theorem two_pow_le_beyond {k : Nat} (h : k ≤ 2098) : 2 ^ k ≤ beyond :=
  Nat.pow_le_pow_right (by decide) (h.trans_eq digits_eq.symm)

theorem beyond_le_two_pow {k : Nat} (h : 2098 ≤ k) : beyond ≤ 2 ^ k :=
  Nat.pow_le_pow_right (by decide) (digits_eq.trans_le h)

theorem beyond_pos : 0 < beyond := Nat.two_pow_pos digits

theorem units_pos {m : Nat} (e : Int) (hm : 0 < m) : 0 < units m e :=
  Nat.mul_pos hm (Nat.two_pow_pos _)

theorem units_lt_beyond {m : Nat} {e : Int} (h : Canonical m e) (he : e ≤ lastExponent) :
    units m e < beyond := by
  have hexponent : 53 + (e + 1074).toNat ≤ 2098 := by
    have hlast : lastExponent = 971 := rfl
    omega
  calc units m e < 2 ^ 53 * 2 ^ (e + 1074).toNat := mul_two_pow_lt _ h.mantissa_lt
    _ = 2 ^ (53 + (e + 1074).toNat) := (Nat.pow_add ..).symm
    _ ≤ beyond := two_pow_le_beyond hexponent

/-- What is too large for a double is no smaller than infinity. -/
theorem beyond_le_units {m : Nat} {e : Int} (h : Canonical m e) (he : lastExponent < e) :
    beyond ≤ units m e := by
  have hlast : lastExponent = 971 := rfl
  have hfull : 2 ^ 52 ≤ m := h.full.resolve_right (by omega)
  calc beyond ≤ 2 ^ (52 + (e + 1074).toNat) := beyond_le_two_pow (by omega)
    _ = 2 ^ 52 * 2 ^ (e + 1074).toNat := Nat.pow_add ..
    _ ≤ units m e := Nat.mul_le_mul_right _ hfull

/-- A larger exponent makes the larger number, since its mantissa is full. -/
theorem units_lt_of_lt {m n : Nat} {e f : Int} (h : Canonical m e) (h' : Canonical n f)
    (hef : e < f) : units m e < units n f := by
  have he := h.exponent_ge
  have hfull : 2 ^ 52 ≤ n := h'.full.resolve_right (by omega)
  have hexponent : (e + 1074).toNat + 1 ≤ (f + 1074).toNat := by omega
  calc m * 2 ^ (e + 1074).toNat < 2 ^ 53 * 2 ^ (e + 1074).toNat := mul_two_pow_lt _ h.mantissa_lt
    _ = 2 ^ 52 * 2 ^ ((e + 1074).toNat + 1) := by rw [← Nat.pow_add, ← Nat.pow_add]; congr 1; omega
    _ ≤ n * 2 ^ (f + 1074).toNat :=
        Nat.mul_le_mul hfull (Nat.pow_le_pow_right (by decide) hexponent)

theorem compare_units {m n : Nat} {e f : Int} (h : Canonical m e) (h' : Canonical n f) :
    (compare e f).then (compare m n) = compare (units m e : Int) (units n f : Int) := by
  rcases lt_trichotomy e f with hef | rfl | hef
  · have hlt := units_lt_of_lt h h' hef
    rw [compare_lt_iff_lt.2 hef, compare_lt_iff_lt.2 (Int.ofNat_lt.2 hlt)]
    rfl
  · rw [compare_eq_iff_eq.2 rfl]
    rcases lt_trichotomy m n with hmn | rfl | hmn
    · have hlt : units m e < units n e := mul_two_pow_lt _ hmn
      rw [compare_lt_iff_lt.2 hmn, compare_lt_iff_lt.2 (Int.ofNat_lt.2 hlt)]
      rfl
    · rw [compare_eq_iff_eq.2 rfl, compare_eq_iff_eq.2 rfl]
      rfl
    · have hlt : units n e < units m e := mul_two_pow_lt _ hmn
      rw [compare_gt_iff_gt.2 hmn, compare_gt_iff_gt.2 (Int.ofNat_lt.2 hlt)]
      rfl
  · have hlt := units_lt_of_lt h' h hef
    rw [compare_gt_iff_gt.2 hef, compare_gt_iff_gt.2 (Int.ofNat_lt.2 hlt)]
    rfl

theorem below {a b : Int} (h : a < b) : some Ordering.lt = some (compare a b) :=
  congrArg some (compare_lt_iff_lt.2 h).symm

theorem above {a b : Int} (h : b < a) : some Ordering.gt = some (compare a b) :=
  congrArg some (compare_gt_iff_gt.2 h).symm

theorem level {a b : Int} (h : a = b) : some Ordering.eq = some (compare a b) :=
  congrArg some (compare_eq_iff_eq.2 h).symm

/-- Values that are stored as they are. -/
def Fits : UnpackedFloat → Prop
  | .finite _ m e _ => Canonical m e ∧ e ≤ lastExponent
  | _ => True

theorem fits_view (x : Float) : Fits (view x) := by
  cases h : view x with
  | finite s m e hm => exact canonical_view h
  | _ => trivial

theorem swap_compare (a b : Int) : (compare a b).swap = compare (-a) (-b) := by
  rcases lt_trichotomy a b with h | rfl | h
  · rw [compare_lt_iff_lt.2 h, compare_gt_iff_gt.2 (Int.neg_lt_neg h)]
    rfl
  · rw [compare_eq_iff_eq.2 rfl, compare_eq_iff_eq.2 rfl]
    rfl
  · rw [compare_gt_iff_gt.2 h, compare_lt_iff_lt.2 (Int.neg_lt_neg h)]
    rfl

/-- Numbers compare as the multiples they stand for. -/
theorem compare_eq {u v : UnpackedFloat} (hu : Fits u) (hv : Fits v) (hu' : u ≠ .notANumber)
    (hv' : v ≠ .notANumber) : u.compare v = some (compare (scaledView u) (scaledView v)) := by
  have hbeyond : (0 : Int) < beyond := Int.ofNat_lt.2 beyond_pos
  have hbound : ∀ {m e}, 0 < m → Canonical m e ∧ e ≤ lastExponent →
      (0 : Int) < units m e ∧ (units m e : Int) < beyond := fun hm h =>
    ⟨Int.ofNat_lt.2 (units_pos _ hm), Int.ofNat_lt.2 (units_lt_beyond h.1 h.2)⟩
  cases u with
  | notANumber => exact absurd rfl hu'
  | infinity s =>
    cases v with
    | notANumber => exact absurd rfl hv'
    | infinity s' =>
      cases s
      all_goals cases s'
      · exact level rfl
      · exact below (by simp only [scaledView, Sign.apply]; omega)
      · exact above (by simp only [scaledView, Sign.apply]; omega)
      · exact level rfl
    | zero s' =>
      cases s
      · exact below (by simp only [scaledView, Sign.apply]; omega)
      · exact above (by simp only [scaledView, Sign.apply]; omega)
    | finite s' n f hn =>
      obtain ⟨hpos, hlt⟩ := hbound hn hv
      cases s
      · exact below (by cases s' <;> simp only [scaledView, Sign.apply] <;> omega)
      · exact above (by cases s' <;> simp only [scaledView, Sign.apply] <;> omega)
  | zero s =>
    cases v with
    | notANumber => exact absurd rfl hv'
    | infinity s' =>
      cases s'
      · exact above (by simp only [scaledView, Sign.apply]; omega)
      · exact below (by simp only [scaledView, Sign.apply]; omega)
    | zero s' => exact level rfl
    | finite s' n f hn =>
      obtain ⟨hpos, -⟩ := hbound hn hv
      cases s'
      · exact above (by simp only [scaledView, Sign.apply]; omega)
      · exact below (by simp only [scaledView, Sign.apply]; omega)
  | finite s m e hm =>
    obtain ⟨hpos, hlt⟩ := hbound hm hu
    cases v with
    | notANumber => exact absurd rfl hv'
    | infinity s' =>
      cases s'
      · cases s
        · exact above (by simp only [scaledView, Sign.apply]; omega)
        · exact above (by simp only [scaledView, Sign.apply]; omega)
      · cases s
        · exact below (by simp only [scaledView, Sign.apply]; omega)
        · exact below (by simp only [scaledView, Sign.apply]; omega)
    | zero s' =>
      cases s
      · exact below (by simp only [scaledView, Sign.apply]; omega)
      · exact above (by simp only [scaledView, Sign.apply]; omega)
    | finite s' n f hn =>
      obtain ⟨hpos', -⟩ := hbound hn hv
      cases s
      all_goals cases s'
      · have hswap := swap_compare (units m e) (units n f)
        rw [← compare_units hu.1 hv.1] at hswap
        exact congrArg some hswap
      · exact below (by simp only [scaledView, Sign.apply]; omega)
      · exact above (by simp only [scaledView, Sign.apply]; omega)
      · exact congrArg some (compare_units hu.1 hv.1)

theorem isNumber_iff {x : Float} : Amount.IsNumber x ↔ view x ≠ .notANumber := by
  have hle : Amount.IsNumber x ↔ (view x).le (view x) = true := decide_eq_true_iff
  rw [hle, UnpackedFloat.le]
  by_cases hx : view x = .notANumber
  · simp [hx, UnpackedFloat.compare]
  · simp [compare_eq (fits_view x) (fits_view x) hx hx, hx]

theorem isNumber_iff_isNaN {x : Float} : Amount.IsNumber x ↔ x.isNaN = false := by
  have hview : x.isNaN = (view x).isNaN := rfl
  rw [isNumber_iff, hview]
  cases view x <;> simp [UnpackedFloat.isNaN]

/-- Comparisons say something of numbers alone, and of these they say how the multiples compare. -/
theorem le_iff {x y : Float} :
    x ≤ y ↔ Amount.IsNumber x ∧ Amount.IsNumber y ∧ scaled x ≤ scaled y := by
  have hle : x ≤ y ↔ (view x).le (view y) = true := decide_eq_true_iff
  rw [hle, isNumber_iff, isNumber_iff, UnpackedFloat.le]
  by_cases hx : view x = .notANumber
  · simp [hx, UnpackedFloat.compare]
  · by_cases hy : view y = .notANumber
    · cases view x <;> simp [hy, UnpackedFloat.compare]
    · simp [compare_eq (fits_view x) (fits_view y) hx hy, hx, hy, Std.isLE_compare, scaled]

theorem lt_iff {x y : Float} :
    x < y ↔ Amount.IsNumber x ∧ Amount.IsNumber y ∧ scaled x < scaled y := by
  have hlt : x < y ↔ (view x).lt (view y) = true := decide_eq_true_iff
  rw [hlt, isNumber_iff, isNumber_iff, UnpackedFloat.lt]
  by_cases hx : view x = .notANumber
  · simp [hx, UnpackedFloat.compare]
  · by_cases hy : view y = .notANumber
    · cases view x <;> simp [hy, UnpackedFloat.compare]
    · simp [compare_eq (fits_view x) (fits_view y) hx hy, hx, hy, compare_lt_iff_lt, scaled]

instance : Amount.Ordered Float where
  isNumber h := ⟨(le_iff.1 h).1, (le_iff.1 h).2.1⟩
  le_trans h h' := by
    obtain ⟨ha, -, hab⟩ := le_iff.1 h
    obtain ⟨-, hc, hbc⟩ := le_iff.1 h'
    exact le_iff.2 ⟨ha, hc, hab.trans hbc⟩
  le_of_lt h := by
    obtain ⟨ha, hb, hab⟩ := lt_iff.1 h
    exact le_iff.2 ⟨ha, hb, hab.le⟩
  le_of_not_lt ha hb h :=
    le_iff.2 ⟨hb, ha, not_lt.1 fun hab => h (lt_iff.2 ⟨ha, hb, hab⟩)⟩

theorem lt_of_lt_of_le {x y z : Float} (h : x < y) (h' : y ≤ z) : x < z := by
  obtain ⟨hx, -, hxy⟩ := lt_iff.1 h
  obtain ⟨-, hz, hyz⟩ := le_iff.1 h'
  exact lt_iff.2 ⟨hx, hz, hxy.trans_le hyz⟩

theorem lt_of_le_of_lt {x y z : Float} (h : x ≤ y) (h' : y < z) : x < z := by
  obtain ⟨hx, -, hxy⟩ := le_iff.1 h
  obtain ⟨-, hz, hyz⟩ := lt_iff.1 h'
  exact lt_iff.2 ⟨hx, hz, hxy.trans_lt hyz⟩

theorem not_lt_of_le {x y : Float} (h : x ≤ y) : ¬ y < x :=
  fun hlt => Int.not_lt.2 (le_iff.1 h).2.2 (lt_iff.1 hlt).2.2

end ParcelPricing.Double
