import Mathlib.Algebra.Order.Ring.Rat
import Mathlib.Tactic.Linarith
import ParcelPricing.Amount.Exact
import ParcelPricing.Proofs.StandardRules

/-! No sequence of grants takes a month above the ceiling and one tolerance. -/
namespace ParcelPricing
open Rule

theorem Amount.greater_eq_max (a b : ℚ) : Amount.greater a b = max a b := by
  have hb : Amount.IsNumber b := le_refl b
  unfold greater
  by_cases hab : b < a
  · rw [if_pos hab, max_eq_left hab.le]
  · rw [if_neg hab, if_pos hb, max_eq_right (not_lt.1 hab)]

namespace Rule

theorem remainder_eq_max (ceiling granted : ℚ) : remainder ceiling granted =
    max (if ceiling - granted + 1e-9 < Amount.oneDigit (ceiling - granted) then ceiling - granted
      else Amount.oneDigit (ceiling - granted)) 0 :=
  Amount.greater_eq_max _ _

theorem remainder_nonneg (ceiling granted : ℚ) : 0 ≤ remainder ceiling granted := by
  rw [remainder_eq_max]
  exact le_max_right _ _

/-- Whatever the rounding gives, it is granted only as far as the tolerance allows. -/
theorem add_remainder_le (ceiling granted : ℚ) :
    granted + remainder ceiling granted ≤ max granted (ceiling + 1e-9) := by
  rw [remainder_eq_max]
  -- Nothing about the rounded amount is needed: the comparison alone keeps it down.
  generalize Amount.oneDigit (ceiling - granted) = rounded
  rcases max_choice (if ceiling - granted + 1e-9 < rounded then ceiling - granted else rounded) 0
    with h | h
  · rw [h]
    apply le_max_of_le_right
    split
    · linarith
    · linarith
  · rw [h]
    apply le_max_of_le_left
    linarith

theorem add_grant_le (ceiling granted : ℚ) (proposed : Option ℚ) :
    granted + (grant ceiling granted proposed).getD 0 ≤ max granted (ceiling + 1e-9) := by
  by_cases h : proposed.getD 0 + granted < ceiling
  · rw [grant_of_fits h]
    apply le_max_of_le_right
    linarith
  · rw [grant_of_not_fits h]
    exact add_remainder_le ceiling granted

theorem grant_nonneg {ceiling granted : ℚ} {proposed : Option ℚ} (hp : ∀ q ∈ proposed, 0 ≤ q) :
    0 ≤ (grant ceiling granted proposed).getD 0 := by
  by_cases h : proposed.getD 0 + granted < ceiling
  · rw [grant_of_fits h]
    cases proposed with
    | none => exact le_refl 0
    | some q => exact hp q rfl
  · rw [grant_of_not_fits h]
    exact remainder_nonneg ceiling granted

end Rule

variable {t : Terms ℚ} {l : Ledger ℚ} {xs : List (Shipment ℚ)} {first : Nat} {st : Step ℚ}

theorem granted_step_le (h : st ∈ stepsOf t (standard first) l xs) (p : Period) :
    (st.after.entry p).granted ≤ max (st.before.entry p).granted (t.ceiling + 1e-9) := by
  obtain ⟨hr, hafter⟩ := mem_stepsOf (keepTerms_standard first) h
  rw [hafter]
  rcases granted_apply hr p with hsame | ⟨-, hgrant⟩
  · rw [hsame]
    exact le_max_left _ _
  · rw [hgrant]
    exact add_grant_le ..

theorem granted_step_mono (h : st ∈ stepsOf t (standard first) l xs)
    (hp : st.rule = applyPrice (first + 4) → ∀ q ∈ st.shipment.proposed, 0 ≤ q) (p : Period) :
    (st.before.entry p).granted ≤ (st.after.entry p).granted := by
  obtain ⟨hr, hafter⟩ := mem_stepsOf (keepTerms_standard first) h
  rw [hafter]
  rcases granted_apply hr p with hsame | ⟨hrule, hgrant⟩
  · exact hsame.ge
  · rw [hgrant]
    exact le_add_of_nonneg_right (grant_nonneg (hp hrule))

/-- At no point of a run is a month granted more than it started with or than the ceiling and one
tolerance, and without negative proposals that never falls. -/
theorem ceiling_invariant (first : Nat) (t : Terms ℚ) (l : Ledger ℚ) (xs : List (Shipment ℚ)) :
    let e : Engine ℚ := ⟨standard first, t, l⟩
    (∀ b ∈ e.books xs, ∀ p,
        (b.entry p).granted ≤ max (l.entry p).granted (t.ceiling + 1e-9)) ∧
      ((∀ st ∈ e.steps xs, st.rule = applyPrice (first + 4) → ∀ q ∈ st.shipment.proposed, 0 ≤ q) →
        (e.books xs).Pairwise fun a b => ∀ p, (a.entry p).granted ≤ (b.entry p).granted) := by
  intro e
  have htrail := trail_stepsOf t (standard first) l xs
  constructor
  · refine htrail.invariant (fun st hst hbefore p => ?_) fun p => le_max_left _ _
    exact (granted_step_le hst p).trans (max_le (hbefore p) (le_max_right _ _))
  · intro hp
    exact htrail.pairwise (fun hab hbc p => (hab p).trans (hbc p))
      fun st hst => granted_step_mono hst (hp st hst)

/-- Two proposals that together pass the ceiling: the month ends within it and never fell. -/
theorem ceiling_invariant_of_two :
    let january : Period := .month 2024 1
    let parcel (q : ℚ) : Shipment ℚ :=
      { date := .valid ⟨2024, 1, 5, by decide, by decide⟩, size := .medium, provider := .laPoste,
        proposed := some q, price := none, discount := none, ignored := false }
    let e : Engine ℚ := ⟨standard 0, ⟨PriceTable.empty.insert .laPoste .medium 9, 10,
      .ofKeys [.laPoste], .ofKeys [.medium]⟩, .empty⟩
    ((e.run [parcel 7, parcel 5]).2.ledger.entry january).granted ≤ max 0 (10 + 1e-9) ∧
      (e.books [parcel 7, parcel 5]).Pairwise
        fun a b => ∀ p, (a.entry p).granted ≤ (b.entry p).granted := by
  intro january parcel e
  have h := ceiling_invariant 0 e.terms .empty [parcel 7, parcel 5]
  refine ⟨h.1 _ (List.mem_of_getLast? (e.getLast_books _)) january, h.2 ?_⟩
  intro st hst hrule q hq
  obtain ⟨s, hs, l', hassessed, -⟩ := pricing_step hst hrule
  have hkept : ∀ q, (assessed e.terms l' (parcel q)).proposed = some q := fun q =>
    proposed_assessed_of_other (by simp [parcel]) (by simp [parcel, Shipment.IsLargeLaPoste])
  rw [hassessed] at hq
  simp only [List.mem_cons, List.not_mem_nil, or_false] at hs
  rcases hs with rfl | rfl
  · rw [hkept, Option.mem_some_iff] at hq
    exact hq ▸ by norm_num
  · rw [hkept, Option.mem_some_iff] at hq
    exact hq ▸ by norm_num

end ParcelPricing
