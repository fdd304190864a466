import Mathlib.Tactic.FieldSimp
import Mathlib.Tactic.Linarith
import Mathlib.Tactic.Ring
import ParcelPricing.Proofs.DoubleSum

/-! Powers of ten in doubles stay finite well beyond `10 ^ 300`. -/
namespace ParcelPricing.Double
open Amount
open Float.Model (UnpackedFloat Format)
open Float.Model.UnpackedFloat

/-- Where the binary point stands, counted from the end of the least double. -/
@[irreducible] def point : Nat := 1074

theorem point_eq : point = 1074 := by
  rw [point]

/-- A finite double as the rational it stands for. -/
def value (x : Float) : ℚ := scaled x / 2 ^ point

theorem two_pow_point_pos : (0 : ℚ) < 2 ^ point := pow_pos (by norm_num) _

theorem two_pow_point_lt : 2 ^ point < beyond := by
  have hdigits : point < digits := by
    rw [point_eq, digits_eq]
    decide
  exact Nat.pow_lt_pow_right (by decide) hdigits

variable {x y : Float}

/-- A whole number is that multiple of one. -/
theorem scaled_whole {k j : Nat} {hm : 0 < k * 2 ^ j} (hj : j ≤ point)
    (h : view x = .finite .positive (k * 2 ^ j) (-j) hm) : scaled x = (k * 2 ^ point : Nat) := by
  have hexponent : j + (-(j : Int) + 1074).toNat = point := by
    have hpoint := point_eq
    omega
  have hunits : units (k * 2 ^ j) (-j) = k * 2 ^ point := by
    rw [units, Nat.mul_assoc, ← Nat.pow_add, hexponent]
  rw [scaled, h]
  exact congrArg Int.ofNat hunits

theorem scaled_one : scaled 1.0 = (2 ^ point : Nat) := by
  rw [scaled_whole (x := 1.0) (k := 1) (j := 52) (by rw [point_eq]; decide) rfl, Nat.one_mul]

theorem value_one : value 1.0 = 1 := by
  rw [value, scaled_one]
  push_cast
  exact div_self two_pow_point_pos.ne'

theorem value_ten : value 10.0 = 10 := by
  rw [value, scaled_whole (x := 10.0) (k := 10) (j := 49) (by rw [point_eq]; decide) rfl]
  push_cast
  exact mul_div_cancel_right₀ _ two_pow_point_pos.ne'

theorem one_le_iff : 1.0 ≤ x ↔ IsNumber x ∧ (2 ^ point : Nat) ≤ scaled x := by
  have hone : IsNumber (1.0 : Float) := by decide
  rw [le_iff, scaled_one]
  exact ⟨fun h => h.2, fun h => ⟨hone, h⟩⟩

theorem one_le_of_infinity (h : view x = .infinity .positive) : 1.0 ≤ x := by
  have hnumber : IsNumber x := isNumber_iff.2 (by rw [h]; nofun)
  have hscaled : scaled x = (2 * beyond : Nat) := by
    rw [scaled, h]
    rfl
  have hpoint := two_pow_point_lt
  exact one_le_iff.2 ⟨hnumber, by omega⟩

/-- From one on all bits of the mantissa are in use, and none lies far behind the point. -/
theorem exists_view (h : 1.0 ≤ x) : view x = .infinity .positive ∨
    ∃ m e hm, view x = .finite .positive m e hm ∧ 2 ^ 52 ≤ m ∧ -52 ≤ e := by
  obtain ⟨hnumber, hscaled⟩ := one_le_iff.1 h
  have hpos : 0 < 2 ^ point := Nat.two_pow_pos point
  rw [scaled] at hscaled
  cases hview : view x with
  | notANumber => exact absurd hview (isNumber_iff.1 hnumber)
  | infinity s =>
    rw [hview] at hscaled
    cases s with
    | negative =>
      simp only [scaledView, Sign.apply] at hscaled
      omega
    | positive => exact Or.inl rfl
  | zero s =>
    rw [hview] at hscaled
    exact absurd (Int.ofNat_le.1 hscaled) (Nat.not_le.2 hpos)
  | finite s m e hm =>
    rw [hview] at hscaled
    cases s with
    | negative =>
      simp only [scaledView, Sign.apply] at hscaled
      omega
    | positive =>
      obtain ⟨hcanonical, -⟩ := canonical_view hview
      have hexponent : 2 ^ point < 2 ^ (53 + (e + 1074).toNat) := by
        calc 2 ^ point ≤ units m e := Int.ofNat_le.1 hscaled
          _ < 2 ^ 53 * 2 ^ (e + 1074).toNat := mul_two_pow_lt _ hcanonical.mantissa_lt
          _ = 2 ^ (53 + (e + 1074).toNat) := (Nat.pow_add ..).symm
      have hlt := (Nat.pow_lt_pow_iff_right (by decide)).1 hexponent
      have hpoint := point_eq
      exact Or.inr ⟨m, e, hm, rfl, hcanonical.full.resolve_right (by omega), by omega⟩

/-- The finite doubles from one on. -/
structure FromOne (x : Float) : Prop where
  finite : IsFinite x
  one_le : 1.0 ≤ x

theorem FromOne.exists_view (h : FromOne x) : ∃ m e hm, view x = .finite .positive m e hm ∧
    2 ^ 52 ≤ m ∧ -52 ≤ e := by
  refine (Double.exists_view h.one_le).resolve_left fun hview => ?_
  rcases view_of_isFinite h.finite with ⟨s, hzero⟩ | ⟨s, m, e, hm, hfinite⟩
  · cases hview.symm.trans hzero
  · cases hview.symm.trans hfinite

theorem FromOne.one_le_value (h : FromOne x) : 1 ≤ value x := by
  rw [value, le_div_iff₀ two_pow_point_pos, one_mul]
  exact_mod_cast (one_le_iff.1 h.one_le).2

theorem units_mul {m k : Nat} {e f : Int} (he : -52 ≤ e) (hf : -52 ≤ f) :
    units (m * k) (e + f) * 2 ^ point = units m e * units k f := by
  have hexponent : (e + f + 1074).toNat + point = (e + 1074).toNat + (f + 1074).toNat := by
    have hpoint := point_eq
    omega
  rw [units, units, units, Nat.mul_assoc, ← Nat.pow_add, hexponent, Nat.pow_add, Nat.mul_mul_mul_comm]

/-- Full mantissas leave so many bits to be dropped that none has to be made up. -/
theorem scaledView_mul {m k : Nat} {e f : Int} {hm : 0 < m} {hk : 0 < k} (hfullm : 2 ^ 52 ≤ m)
    (hfullk : 2 ^ 52 ≤ k) (he : -52 ≤ e) (hf : -52 ≤ f) :
    scaledView (stored (UnpackedFloat.mul .binary64 (.finite .positive m e hm)
      (.finite .positive k f hk))) = limit (units (m * k) (e + f)) := by
  have hmk : 0 < m * k := Nat.mul_pos hm hk
  have hlong : e + f ≤ (spare (units (m * k) (e + f)) : Int) - 1074 := by
    have hmantissa : 2 ^ 104 ≤ m * k := by
      calc 2 ^ 104 = 2 ^ 52 * 2 ^ 52 := by norm_num
        _ ≤ m * k := Nat.mul_le_mul hfullm hfullk
    have hlog : 104 ≤ (m * k).log2 := (Nat.le_log2 hmk.ne').2 hmantissa
    rw [spare, units, log2_mul_two_pow _ hmk]
    omega
  obtain ⟨m', e', hm', hround, hcanonical, hunits⟩ :=
    roundWithAccuracy_eq (s := .positive) hmk (by omega) hlong
  change scaledView (stored (roundWithAccuracy .binary64 .positive (m * k) (e + f) .exact)) = _
  rw [hround, scaledView_stored_nearest hcanonical hunits]
  rfl

/-- Doubles from one on are multiplied exactly, and rounded once. -/
theorem FromOne.scaled_mul (hx : FromOne x) (hy : FromOne y) : ∃ n : Nat,
    IsNumber (x * y) ∧ scaled (x * y) = limit n ∧ (n : ℚ) / 2 ^ point = value x * value y := by
  obtain ⟨m, e, hm, hviewx, hfullm, he⟩ := hx.exists_view
  obtain ⟨k, f, hk, hviewy, hfullk, hf⟩ := hy.exists_view
  refine ⟨units (m * k) (e + f), ?_, ?_, ?_⟩
  · have hsign : HasSign .positive (view x) := by rw [hviewx]; rfl
    have hproduct := (hsign.mul_finite .positive f hk).stored
    rw [← hviewy, ← view_mul] at hproduct
    exact isNumber_iff.2 hproduct.ne_notANumber
  · rw [scaled, view_mul, hviewx, hviewy, scaledView_mul hfullm hfullk he hf]
  · have hpoint := two_pow_point_pos.ne'
    have hproduct : (units (m * k) (e + f) : ℚ) * 2 ^ point = units m e * units k f := by
      exact_mod_cast units_mul he hf
    simp only [value, scaled, hviewx, hviewy, scaledView, Sign.apply, Int.cast_natCast]
    field_simp
    exact hproduct

theorem isFinite_of_lt (hx : IsNumber x) (hnonneg : 0 ≤ scaled x) (hlt : scaled x < 2 * beyond) :
    IsFinite x := by
  refine (isFinite_or hx).resolve_right ?_
  rintro ⟨s, hs⟩
  have hpos := beyond_pos
  rw [scaled, hs] at hnonneg hlt
  cases s <;> simp only [scaledView, Sign.apply] at hnonneg hlt <;> omega

theorem le_limit_two_pow_point {n : Nat} (h : 2 ^ point ≤ n) : 2 ^ point ≤ limit n := by
  have hexact : limit (2 ^ point) = 2 ^ point := by
    rw [limit, nearest_two_pow, if_pos two_pow_point_lt]
  exact hexact.symm.trans_le (limit_mono h)

/-- Products stay at one or above, be they infinite. -/
theorem one_le_mul (hx : 1.0 ≤ x) (hy : 1.0 ≤ y) : 1.0 ≤ x * y := by
  have hproduct := view_mul x y
  rcases exists_view hx with hviewx | ⟨m, e, hm, hviewx, -, -⟩
  · refine one_le_of_infinity ?_
    rw [hproduct, hviewx]
    rcases exists_view hy with hviewy | ⟨k, f, hk, hviewy, -, -⟩
    · rw [hviewy]
      exact stored_infinity _
    · rw [hviewy]
      exact stored_infinity _
  · rcases exists_view hy with hviewy | ⟨k, f, hk, hviewy, -, -⟩
    · refine one_le_of_infinity ?_
      rw [hproduct, hviewx, hviewy]
      exact stored_infinity _
    · have hx' : FromOne x := ⟨(isFinite_iff x).2 (congrArg UnpackedFloat.isFinite hviewx), hx⟩
      have hy' : FromOne y := ⟨(isFinite_iff y).2 (congrArg UnpackedFloat.isFinite hviewy), hy⟩
      obtain ⟨n, hnumber, hscaled, hn⟩ := hx'.scaled_mul hy'
      have hone : (1 : ℚ) ≤ n / 2 ^ point :=
        hn ▸ one_le_mul_of_one_le_of_one_le hx'.one_le_value hy'.one_le_value
      rw [le_div_iff₀ two_pow_point_pos, one_mul] at hone
      have hlimit := le_limit_two_pow_point (n := n) (by exact_mod_cast hone)
      exact one_le_iff.2 ⟨hnumber, by omega⟩

theorem nearest_le (n : Nat) : 1000 * nearest n ≤ 1001 * n := by
  rcases Nat.eq_zero_or_pos (spare n) with hzero | hpos
  · rw [nearest, hzero, nearestShift_zero]
    omega
  · have hspare := le_of_spare hpos
    have hup : nearest n ≤ n + 2 ^ spare n := by
      calc nearest n ≤ (n / 2 ^ spare n + 1) * 2 ^ spare n :=
            Nat.mul_le_mul_right _ (nearestShift_le n _)
        _ = n / 2 ^ spare n * 2 ^ spare n + 2 ^ spare n := by ring
        _ ≤ n + 2 ^ spare n := Nat.add_le_add_right (Nat.div_mul_le_self ..) _
    omega

theorem value_beyond : (beyond : ℚ) / 2 ^ point = 2 ^ 1024 := by
  have hdigits : digits = point + 1024 := by rw [digits_eq, point_eq]
  rw [beyond, hdigits]
  push_cast
  rw [pow_add, mul_div_cancel_left₀ _ two_pow_point_pos.ne']

/-- A product that leaves room for a thousandth is finite and off by no more than that. -/
theorem FromOne.mul (hx : FromOne x) (hy : FromOne y)
    (h : value x * value y * (1001 / 1000) < 2 ^ 1024) :
    FromOne (x * y) ∧ value (x * y) ≤ value x * value y * (1001 / 1000) := by
  obtain ⟨n, hnumber, hscaled, hn⟩ := hx.scaled_mul hy
  have hnearest : (nearest n : ℚ) / 2 ^ point ≤ value x * value y * (1001 / 1000) := by
    have hle : (1000 : ℚ) * nearest n ≤ 1001 * n := by exact_mod_cast nearest_le n
    have hpoint := two_pow_point_pos
    rw [← hn, div_mul_eq_mul_div]
    gcongr
    linarith
  have hlt : nearest n < beyond := by
    have hlt := hnearest.trans_lt h
    rw [← value_beyond, div_lt_div_iff_of_pos_right two_pow_point_pos] at hlt
    exact_mod_cast hlt
  have hlimit : limit n = nearest n := if_pos hlt
  rw [hlimit] at hscaled
  have hfinite : IsFinite (x * y) := isFinite_of_lt hnumber (by omega) (by omega)
  refine ⟨⟨hfinite, one_le_mul hx.one_le hy.one_le⟩, ?_⟩
  rw [value, hscaled, Int.cast_natCast]
  exact hnearest

/-- The value with room for what a few roundings add to it. -/
def room (x : Float) : ℚ := value x * (1001 / 1000) ^ 2

theorem FromOne.one_le_room (h : FromOne x) : 1 ≤ room x := by
  have hvalue := h.one_le_value
  rw [room]
  linarith

theorem FromOne.mul_of_room (hx : FromOne x) (hy : FromOne y) (h : value x * room y < 2 ^ 1024) :
    FromOne (x * y) ∧ value (x * y) ≤ value x * room y := by
  have hvx := hx.one_le_value
  have hvy := hy.one_le_value
  have hle : value x * value y * (1001 / 1000) ≤ value x * room y := by
    rw [mul_assoc]
    gcongr
    rw [room]
    linarith
  obtain ⟨hproduct, hvalue⟩ := hx.mul hy (hle.trans_lt h)
  exact ⟨hproduct, hvalue.trans hle⟩

theorem FromOne.square_of_room (hy : FromOne y) (h : room y ^ 2 < 2 ^ 1024) :
    FromOne (y * y) ∧ room (y * y) ≤ room y ^ 2 := by
  have hpos : 0 ≤ value y * value y := mul_self_nonneg _
  have hle : value y * value y * (1001 / 1000) ≤ room y ^ 2 := by
    rw [room]
    linarith
  obtain ⟨hsquare, hvalue⟩ := hy.mul hy (hle.trans_lt h)
  refine ⟨hsquare, ?_⟩
  rw [room, room]
  linarith

/-- A power stays finite if its base with room for rounding stays so. -/
theorem FromOne.powerOnto (hx : FromOne x) (hy : FromOne y) (n : Nat)
    (h : value x * room y ^ n < 2 ^ 1024) : FromOne (powerOnto x y n) := by
  induction n using Nat.strongRecOn generalizing x y with
  | ind n ih =>
    have hvx := hx.one_le_value
    have hroom := hy.one_le_room
    have hnext : FromOne (if n % 2 = 1 then x * y else x) ∧
        value (if n % 2 = 1 then x * y else x) ≤ value x * room y ^ (n % 2) := by
      rcases Nat.mod_two_eq_zero_or_one n with hmod | hmod
      · rw [hmod, if_neg Nat.zero_ne_one, pow_zero, mul_one]
        exact ⟨hx, le_refl _⟩
      · have hle : value x * room y ≤ value x * room y ^ n := by
          gcongr
          exact le_self_pow₀ hroom (by omega)
        rw [hmod, if_pos rfl, pow_one]
        exact hx.mul_of_room hy (hle.trans_lt h)
    rw [Amount.powerOnto]
    by_cases hn : n / 2 = 0
    · simpa only [hn, dif_pos] using hnext.1
    · simp only [hn, dif_neg, not_false_eq_true]
      obtain ⟨hsquare, hvalue⟩ := hy.square_of_room (by
        calc room y ^ 2 ≤ room y ^ n := pow_le_pow_right₀ hroom (by omega)
          _ ≤ value x * room y ^ n := le_mul_of_one_le_left (by positivity) hvx
          _ < 2 ^ 1024 := h)
      have hsplit : room y ^ n = room y ^ (n % 2) * (room y ^ 2) ^ (n / 2) := by
        rw [← pow_mul, ← pow_add, Nat.mod_add_div]
      have hpos : 0 ≤ room (y * y) := zero_le_one.trans hsquare.one_le_room
      refine ih (n / 2) (by omega) hnext.1 hsquare ?_
      calc value (if n % 2 = 1 then x * y else x) * room (y * y) ^ (n / 2)
          ≤ value x * room y ^ (n % 2) * (room y ^ 2) ^ (n / 2) := by gcongr; exact hnext.2
        _ = value x * room y ^ n := by rw [mul_assoc, ← hsplit]
        _ < 2 ^ 1024 := h

theorem one_le_powerOfTen (n : Nat) : 1.0 ≤ (powerOfTen n : Float) :=
  powerOnto_of_mul (P := (1.0 ≤ ·)) one_le_mul n (by decide) (by decide)

theorem fromOne_powerOfTen {n : Nat} (h : n ≤ 307) : FromOne (powerOfTen n) := by
  have hone : FromOne 1.0 := ⟨by decide, by decide⟩
  have hten : FromOne 10.0 := ⟨by decide, by decide⟩
  have hthird : room 10.0 ^ 3 < 2 ^ 10 := by
    rw [room, value_ten]
    norm_num
  have hroom : room 10.0 < 2 ^ 4 := by
    rw [room, value_ten]
    norm_num
  have hpos : 0 ≤ room 10.0 := zero_le_one.trans hten.one_le_room
  refine hone.powerOnto hten n ?_
  rw [value_one, one_mul]
  calc room 10.0 ^ n ≤ room 10.0 ^ (3 * 102 + 1) := pow_le_pow_right₀ hten.one_le_room h
    _ = (room 10.0 ^ 3) ^ 102 * room 10.0 := by rw [pow_succ, pow_mul]
    _ < (2 ^ 10) ^ 102 * 2 ^ 4 := by gcongr
    _ = 2 ^ 1024 := by rw [← pow_mul, ← pow_add]

end ParcelPricing.Double
