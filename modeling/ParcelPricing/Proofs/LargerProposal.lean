import ParcelPricing.Proofs.Clipping
import ParcelPricing.Proofs.DoubleDigit
import ParcelPricing.Proofs.Exhausted

/-! What a larger proposal is granted, against a smaller one in the same month. -/
namespace ParcelPricing
open Amount Double Rule

namespace Amount
variable {α : Type} [Amount α] [Ordered α] {a b : α}

theorem le_greater_left (ha : IsNumber a) (hb : IsNumber b) : a ≤ greater a b := by
  by_cases hab : b < a
  · rw [greater, if_pos hab]
    exact ha
  · rw [greater_of_not_lt hb hab]
    exact Ordered.le_of_not_lt hb ha hab

end Amount

namespace Double
variable {x y : Float}

theorem le_add_tolerance (h : x ≤ y) : x ≤ y + 1e-9 := by
  have hsum : IsNumber (y + 1e-9) := by
    rw [add_comm]
    exact isNumber_add (by decide) (Ordered.isNumber h).2
  have hnonneg : 0 ≤ scaled 1e-9 := (le_iff.1 (by decide : (0.0 : Float) ≤ 1e-9)).2.2
  refine Ordered.le_trans h (le_iff.2 ⟨(Ordered.isNumber h).2, hsum, ?_⟩)
  rw [scaled_add hsum]
  calc scaled y = clamp (scaled y) := (clamp_scaled y).symm
    _ ≤ clamp (scaled y + scaled 1e-9) := clamp_mono (by omega)

/-- What is granted of a number that is not negative is that number, but for the form of zero. -/
theorem same_greater_zero (hx : IsNumber x) (hneg : ¬ x < 0.0) : Same (greater x 0) x := by
  by_cases hpos : 0.0 < x
  · exact Or.inl (if_pos hpos)
  · refine Or.inr ⟨?_, isZero_of_neither hx hpos hneg⟩
    have hzero : greater x 0 = 0 := greater_of_not_lt isNumber_zero hpos
    rw [hzero]
    decide

end Double

/-- Of two proposals in the same month the smaller fits and the larger does not, and what is left comes
to less than the smaller one when one digit of it is kept. -/
structure RoundedBelow (ceiling granted p q : Float) : Prop where
  fits : p + granted < ceiling
  not_fits : ¬ q + granted < ceiling
  left : p ≤ ceiling - granted
  rounded : oneDigit (ceiling - granted) < p

namespace Rule
variable {ceiling granted : Float} {p q : Option Float}

theorem remainder_of_not_isNumber (h : ¬ IsNumber (oneDigit (ceiling - granted))) :
    remainder ceiling granted = 0.0 := by
  refine greater_of_not_lt isNumber_zero ?_
  rw [if_neg fun hlt => h (lt_iff.1 hlt).2.1]
  exact fun hpos => h (lt_iff.1 hpos).2.1

/-- What is left covers what fits into it, unless rounding brings it below. -/
theorem le_remainder_or {x : Float} (hzero : 0.0 ≤ x) (hx : x ≤ ceiling - granted) :
    x ≤ remainder ceiling granted + 1e-9 ∨
      oneDigit (ceiling - granted) < x ∧
        Same (remainder ceiling granted) (oneDigit (ceiling - granted)) := by
  obtain ⟨hnumber, hleft⟩ := Ordered.isNumber hx
  have hnonneg : ¬ ceiling - granted < 0.0 := not_lt_of_le (Ordered.le_trans hzero hx)
  by_cases hrounded : IsNumber (oneDigit (ceiling - granted))
  · rw [remainder]
    split
    · exact Or.inl (le_add_tolerance (Ordered.le_trans hx (le_greater_left hleft isNumber_zero)))
    · by_cases hbelow : oneDigit (ceiling - granted) < x
      · exact Or.inr ⟨hbelow, same_greater_zero hrounded (not_neg_oneDigit hnonneg)⟩
      · have hle := Ordered.le_of_not_lt hrounded hnumber hbelow
        exact Or.inl (le_add_tolerance
          (Ordered.le_trans hle (le_greater_left hrounded isNumber_zero)))
  · rw [remainder_of_not_isNumber hrounded]
    refine Or.inl (Ordered.le_trans hx ?_)
    exact Ordered.le_trans (le_of_not_isNumber_oneDigit hleft hrounded) (by decide)

/-- A larger proposal is granted no less, unless the smaller one alone fits and what is left is rounded
below it. -/
theorem grant_of_le (hfinite : IsFinite (p.getD 0)) (hzero : 0 ≤ p.getD 0)
    (hle : p.getD 0 ≤ q.getD 0) :
    (grant ceiling granted p).getD 0 ≤ (grant ceiling granted q).getD 0 + 1e-9 ∨
      RoundedBelow ceiling granted (p.getD 0) (q.getD 0) ∧
        (grant ceiling granted p).getD 0 = p.getD 0 ∧
        Same ((grant ceiling granted q).getD 0) (oneDigit (ceiling - granted)) := by
  by_cases hp : p.getD 0 + granted < ceiling
  · by_cases hq : q.getD 0 + granted < ceiling
    · rw [grant_of_fits hp, grant_of_fits hq]
      exact Or.inl (le_add_tolerance hle)
    · rw [grant_of_fits hp, grant_of_not_fits hq]
      have hleft := le_sub_of_add_lt hp
      rcases le_remainder_or hzero hleft with h | ⟨hrounded, hsame⟩
      · exact Or.inl h
      · exact Or.inr ⟨⟨hp, hq, hleft, hrounded⟩, rfl, hsame⟩
  · have hq : ¬ q.getD 0 + granted < ceiling := by
      intro hq
      have hsum := (lt_iff.1 hq).1
      have hsum' := isNumber_add hfinite (isNumber_of_add hsum).2
      have hspent := Ordered.le_of_not_lt hsum' (lt_iff.1 hq).2.1 hp
      exact not_lt_of_le (Ordered.le_trans hspent (add_le_add_right hle hsum' hsum)) hq
    rw [grant_of_not_fits hp, grant_of_not_fits hq]
    exact Or.inl (le_add_tolerance (Ordered.isNumber (zero_le_remainder ceiling granted)).2)

/-- In exact amounts rounding takes no more than a third of what is left. -/
theorem two_thirds_grant_le {ceiling granted : ℚ} {p q : Option ℚ} (hzero : 0 ≤ p.getD 0)
    (hle : p.getD 0 ≤ q.getD 0) :
    2 / 3 * (grant ceiling granted p).getD 0 ≤ (grant ceiling granted q).getD 0 := by
  by_cases hp : p.getD 0 + granted < ceiling
  · obtain ⟨hworth, -, -⟩ := grant_worth ceiling granted (hzero.trans hle)
    have hleft : p.getD 0 ≤ ceiling - granted := by linarith
    have hmin : p.getD 0 ≤ min (q.getD 0) (ceiling - granted) := le_min hle hleft
    have hpaid := (hworth (by linarith)).1
    rw [grant_of_fits hp]
    linarith
  · have hq : ¬ q.getD 0 + granted < ceiling := by linarith
    have hnonneg : 0 ≤ remainder ceiling granted := le_greater (le_refl _)
    rw [grant_of_not_fits hp, grant_of_not_fits hq, Option.getD_some]
    linarith

end Rule

section Discount
variable {α : Type} [Amount α]

/-- The discount of a shipment that comes to its pricing with this proposal. -/
def discountOf (id : Nat) (t : Terms α) (l : Ledger α) (s : Shipment α) (proposed : Option α) : α :=
  ((applyPrice id).apply t l { s with proposed }).1.discount.getD 0

theorem discountOf_eq {t : Terms α} {s : Shipment α} {base : α} (hbase : t.base? s = some base)
    (id : Nat) (l : Ledger α) (proposed : Option α) : discountOf id t l s proposed =
      (grant t.ceiling (l.entry s.period).granted proposed).getD 0 := by
  have hbase' : t.base? { s with proposed } = some base := hbase
  rw [discountOf, apply_applyPrice, hbase']
  rfl

end Discount

/-- A larger proposal is discounted no less, but for the tolerance, unless the smaller one fits and
one digit of what is left is less than it; then it keeps two thirds. -/
theorem larger_proposal :
    (∀ (id : Nat) (t : Terms Float) (l : Ledger Float) (s : Shipment Float) (base : Float),
      t.base? s = some base → ∀ p q : Option Float, IsFinite (p.getD 0) → 0 ≤ p.getD 0 →
        p.getD 0 ≤ q.getD 0 →
          let granted := (l.entry s.period).granted
          discountOf id t l s p ≤ discountOf id t l s q + 1e-9 ∨
            RoundedBelow t.ceiling granted (p.getD 0) (q.getD 0) ∧
              discountOf id t l s p = p.getD 0 ∧
              Same (discountOf id t l s q) (oneDigit (t.ceiling - granted))) ∧
      ∀ (id : Nat) (t : Terms ℚ) (l : Ledger ℚ) (s : Shipment ℚ) (base : ℚ),
        t.base? s = some base → ∀ p q : Option ℚ, 0 ≤ p.getD 0 → p.getD 0 ≤ q.getD 0 →
          2 / 3 * discountOf id t l s p ≤ discountOf id t l s q := by
  constructor
  · intro id t l s base hbase p q hfinite hzero hle granted
    rw [discountOf_eq hbase, discountOf_eq hbase]
    exact grant_of_le hfinite hzero hle
  · intro id t l s base hbase p q hzero hle
    rw [discountOf_eq hbase, discountOf_eq hbase]
    exact two_thirds_grant_le hzero hle

/-- The month has 2.4 left, or a little more in doubles: 2.3 is granted whole, and of 2.5 only 2. -/
theorem larger_proposal_of_little_left :
    let date : ShipDate := .valid ⟨2022, 1, 1, by decide, by decide⟩
    let t : Terms Float := Tariff.standard.terms
    let s : Shipment Float := .unpriced date .large .laPoste
    let l : Ledger Float := Ledger.empty.post (.month 2022 1) (.granted 7.6)
    let exact : Terms ℚ := Tariff.standard.terms
    let parcel : Shipment ℚ := .unpriced date .large .laPoste
    let books : Ledger ℚ := Ledger.empty.post (.month 2022 1) (.granted 7.6)
    RoundedBelow t.ceiling 7.6 2.3 2.5 ∧ discountOf 0 t l s (some 2.3) = 2.3 ∧
      Same (discountOf 0 t l s (some 2.5)) (oneDigit (t.ceiling - 7.6)) ∧
      discountOf 0 t l s (some 2.5) = 2.0 ∧
      discountOf 0 exact books parcel (some 2.3) = 2.3 ∧
      discountOf 0 exact books parcel (some 2.5) = 2 ∧
      2 / 3 * discountOf 0 exact books parcel (some 2.3) ≤
        discountOf 0 exact books parcel (some 2.5) := by
  intro date t s l exact parcel books
  obtain ⟨hdoubles, hexact⟩ := larger_proposal
  have hbase : t.base? s = some 6.9 := by decide +kernel
  have hmore : ¬ discountOf 0 t l s (some 2.3) ≤ discountOf 0 t l s (some 2.5) + 1e-9 := by
    decide +kernel
  obtain ⟨hrounded, hp, hq⟩ := (hdoubles 0 t l s 6.9 hbase (some 2.3) (some 2.5) (by decide)
    (by decide) (by decide)).resolve_left hmore
  have hparcel : exact.base? parcel = some 6.9 := by decide +kernel
  have hthird := hexact 0 exact books parcel 6.9 hparcel (some 2.3) (some 2.5) (by decide +kernel)
    (by decide +kernel)
  exact ⟨hrounded, hp, hq, by decide +kernel, by decide +kernel, by decide +kernel, hthird⟩

/-- So a larger proposal may be discounted less, beyond the tolerance. -/
theorem larger_proposal_granted_less :
    ¬ ∀ (id : Nat) (t : Terms Float) (l : Ledger Float) (s : Shipment Float) (base : Float),
      t.base? s = some base → 0 < t.ceiling → ∀ p q : Option Float, IsFinite (p.getD 0) →
        IsFinite (q.getD 0) → 0 ≤ p.getD 0 → p.getD 0 ≤ q.getD 0 →
          discountOf id t l s p ≤ discountOf id t l s q + 1e-9 := by
  intro h
  let t : Terms Float := Tariff.standard.terms
  let s : Shipment Float := Shipment.unpriced (.valid ⟨2022, 1, 1, by decide, by decide⟩) .large
    .laPoste
  let l : Ledger Float := Ledger.empty.post (.month 2022 1) (.granted 7.6)
  have hbase : t.base? s = some 6.9 := by decide +kernel
  have hle := h 0 t l s 6.9 hbase (by decide) (some 2.3) (some 2.5) (by decide) (by decide)
    (by decide) (by decide)
  exact absurd hle (by decide +kernel)

end ParcelPricing
