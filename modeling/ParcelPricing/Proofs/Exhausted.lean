import ParcelPricing.Proofs.PriceBounds
import ParcelPricing.Proofs.SmallProposal

/-! A month that has reached the ceiling is granted nothing any more. -/
namespace ParcelPricing
open Amount Double Rule

namespace Amount
variable {α : Type} [Amount α] {a b : α}

theorem le_greater [Ordered α] (hb : IsNumber b) : b ≤ greater a b := by
  unfold greater
  by_cases hab : b < a
  · rw [if_pos hab]
    exact Ordered.le_of_lt hab
  · rw [if_neg hab, if_pos hb]
    exact hb

theorem greater_of_not_lt (hb : IsNumber b) (h : ¬ b < a) : greater a b = b := by
  rw [greater, if_neg h, if_pos hb]

end Amount

namespace Rule
variable {ceiling granted : Float} {proposed : Option Float}

theorem zero_le_remainder (ceiling granted : Float) : 0 ≤ remainder ceiling granted :=
  le_greater isNumber_zero

/-- Nothing is left when the headroom is not above zero, be it no number at all. -/
theorem remainder_of_not_pos (h : ¬ 0.0 < ceiling - granted) : remainder ceiling granted = 0 := by
  refine greater_of_not_lt isNumber_zero ?_
  split
  · exact h
  · exact not_pos_oneDigit h

/-- Without a proposal nothing is granted: it fits if something is left, and else nothing is left. -/
theorem grant_none (ceiling granted : Float) :
    grant ceiling granted none = none ∨ grant ceiling granted none = some 0 := by
  rw [grant]
  split
  · exact Or.inl rfl
  · rename_i hfits
    refine Or.inr (congrArg some (remainder_of_not_pos fun hpos => hfits ?_))
    exact zero_add_lt (lt_of_pos_sub hpos)

/-- Once the ceiling is reached, no proposal fits and nothing is left. -/
theorem grant_of_spent (hceiling : 0.0 < ceiling) (h : ceiling ≤ granted)
    (hp : ∀ q ∈ proposed, 0 ≤ q) : grant ceiling granted proposed = some 0 := by
  rw [grant]
  split
  · rename_i hfits
    have hgranted : HasSign .positive (view granted) := hasSign_of_pos (Double.lt_of_lt_of_le hceiling h)
    have hproposed : 0.0 ≤ proposed.getD 0 := by
      cases proposed with
      | none => exact isNumber_zero
      | some q => exact hp q rfl
    have hle : 0.0 + granted ≤ proposed.getD 0 + granted := by
      refine add_le_add_right hproposed ?_ (lt_iff.1 hfits).1
      exact isNumber_add (by decide) (Ordered.isNumber h).2
    rw [zero_add_of_hasSign hgranted] at hle
    exact absurd hfits (not_lt_of_le (Ordered.le_trans h hle))
  · exact congrArg some (remainder_of_not_pos (not_pos_sub h))

end Rule

variable {t : Tariff Float} {terms : Terms Float} {l : Ledger Float} {s : Shipment Float}
  {st : Step Float} {text : List Char} {first : Nat} {p : Period}

/-- Under a usable tariff a shipment of the input is never proposed a negative discount. -/
theorem proposal_nonneg (h : t.Usable) (hs : s.proposed = none) :
    ∀ q ∈ (assessed t.terms l s).proposed, 0 ≤ q := by
  intro q hq
  rw [proposed_assessed, Option.mem_def] at hq
  split at hq
  · exact Tariff.price_nonneg h hq
  · refine smallProposal_nonneg (fun d hd => ?_) q hq
    rw [hs] at hd
    cases hd

/-- A month that has reached the ceiling grants nothing to what comes to its pricing. -/
theorem grant_assessed_of_spent {granted : Float} (h : t.Usable) (hs : s.proposed = none)
    (hspent : t.terms.ceiling ≤ granted) :
    grant t.terms.ceiling granted (assessed t.terms l s).proposed = some 0 ∧
      granted + 0.0 = granted := by
  have hceiling : 0.0 < t.terms.ceiling := h.ceiling
  exact ⟨grant_of_spent hceiling hspent (proposal_nonneg h hs),
    add_zero_of_hasSign (hasSign_of_pos (Double.lt_of_lt_of_le hceiling hspent))⟩

theorem granted_step_of_spent (h : t.Usable)
    (hst : st ∈ stepsOf t.terms (standard first) l (Shipment.readAll text))
    (hspent : t.terms.ceiling ≤ (st.before.entry p).granted) :
    (st.after.entry p).granted = (st.before.entry p).granted := by
  obtain ⟨hr, hafter⟩ := mem_stepsOf (keepTerms_standard first) hst
  rw [hafter]
  rcases granted_apply hr p with hsame | ⟨hrule, hgrant⟩
  · exact hsame
  · obtain ⟨s, hs, l', hassessed, -⟩ := pricing_step hst hrule
    obtain ⟨hnothing, hkept⟩ :=
      grant_assessed_of_spent (l := l') h (unpriced_of_mem_readAll hs).1 hspent
    rw [hgrant, hassessed, hnothing]
    exact hkept

/-- A shipment of a month that has reached the ceiling costs its base price, and the month is
granted what it was. -/
theorem applyRules_of_spent (first : Nat) (h : t.Usable) (hs : s.proposed = none)
    (hspent : t.terms.ceiling ≤ (l.entry p).granted) :
    let r := applyRules t.terms (standard first) l s
    (s.period = p → ∀ base, t.terms.base? s = some base →
        r.1.discount = some 0 ∧ r.1.price = some base) ∧
      (r.2.1.entry p).granted = (l.entry p).granted := by
  have hpriced : s.period = p → ∀ base, t.terms.base? s = some base →
      (applyRules t.terms (standard first) l s).1.discount = some 0 ∧
        (applyRules t.terms (standard first) l s).1.price = some base := by
    rintro rfl base hbase
    obtain ⟨hdiscount, hprice⟩ := pricing_of_base? (l := l) first hbase
    rw [proposed_applyRules, (grant_assessed_of_spent h hs hspent).1] at hdiscount
    rw [hprice, hdiscount]
    exact ⟨rfl, congrArg some (sub_zero base)⟩
  refine ⟨hpriced, ?_⟩
  rw [granted_applyRules]
  split
  · rename_i hcharged
    obtain ⟨base, hbase⟩ := Option.isSome_iff_exists.1 hcharged.2
    rw [(hpriced hcharged.1 base hbase).1]
    exact (grant_assessed_of_spent (l := l) h hs hspent).2
  · rfl

/-- A shipment without a proposal costs its base price, and its month is granted what it was. -/
theorem priced_of_none {t : Terms Float} (base : Float) (hs : s.proposed = none) :
    let r := priced t l s base
    (r.1.discount = none ∨ r.1.discount = some 0) ∧ r.1.price = some base ∧
      Same (r.2.entry s.period).granted (l.entry s.period).granted := by
  have hnothing : (priced t l s base).1.discount = none ∨ (priced t l s base).1.discount = some 0 := by
    simp only [priced, charge, hs]
    exact grant_none ..
  have hzero : (priced t l s base).1.discount.getD 0 = 0.0 := by
    rcases hnothing with h | h
    · rw [h]
      rfl
    · rw [h]
      rfl
  have hprice : (priced t l s base).1.price = some base := by
    change some (base - (priced t l s base).1.discount.getD 0) = some base
    rw [hzero, sub_zero]
  have hgranted : Same ((priced t l s base).2.entry s.period).granted
      (l.entry s.period).granted := by
    rw [entry_priced, if_pos rfl]
    change Same (_ + (priced t l s base).1.discount.getD 0) _
    rw [hzero]
    exact same_add_zero _
  exact ⟨hnothing, hprice, hgranted⟩

/-- Nothing is given without a proposal, and what is given in the place of one that does not fit is
a number and not negative. A month that has reached the ceiling gives nothing more. -/
theorem exhausted_budget :
    (∀ (id : Nat) (t : Terms Float) (l : Ledger Float) (s : Shipment Float) (base : Float),
      t.base? s = some base →
        let granted := (l.entry s.period).granted
        let r := (applyPrice id).apply t l s
        (¬ s.proposed.getD 0 + granted < t.ceiling →
            ∃ amount, r.1.discount = some amount ∧ 0 ≤ amount) ∧
          (s.proposed = none → (r.1.discount = none ∨ r.1.discount = some 0) ∧
            r.1.price = some base ∧ Same (r.2.1.entry s.period).granted granted)) ∧
      ∀ (first : Nat) (t : Tariff Float) (terms : Terms Float), t.accept = .ok terms →
        ∀ (l : Ledger Float) (p : Period), terms.ceiling ≤ (l.entry p).granted →
          ∀ text : List Char,
            let e : Engine Float := ⟨standard first, terms, l⟩
            let xs := Shipment.readAll text
            List.Forall₂ (fun s out => s.period = p → ∀ base, terms.base? s = some base →
                out.discount = some 0 ∧ out.price = some base) xs (e.run xs).1 ∧
              ∀ b ∈ e.books xs, (b.entry p).granted = (l.entry p).granted := by
  constructor
  · intro id t l s base hbase granted r
    have hr : r = ((priced t l s base).1, (priced t l s base).2, t) := by
      simp only [r, apply_applyPrice, hbase]
    rw [hr]
    exact ⟨fun hclipped => ⟨_, grant_of_not_fits hclipped, zero_le_remainder ..⟩,
      priced_of_none base⟩
  · intro first t terms hterms l p hspent text e xs
    obtain ⟨husable, rfl⟩ := Tariff.accept_eq_ok_iff.1 hterms
    constructor
    · refine (keepTerms_standard first).forall₂_run_of_invariant
        (P := fun m => (m.entry p).granted = (l.entry p).granted) (fun s hs m hm => ?_) rfl
      have hproposed := (unpriced_of_mem_readAll hs).1
      obtain ⟨hpriced, hkept⟩ := applyRules_of_spent first husable hproposed (hm ▸ hspent)
      exact ⟨hpriced, hkept.trans hm⟩
    · have htrail := trail_stepsOf t.terms (standard first) l xs
      refine htrail.invariant (fun st hst hbefore => ?_) rfl
      exact (granted_step_of_spent husable hst (hbefore ▸ hspent)).trans hbefore

/-- A ceiling that is no number, and a month that has reached the ceiling of the standard tariff when
a small shipment comes, then the free one, and then one without a proposal. -/
theorem exhausted_budget_of_february :
    let t : Tariff Float := .standard
    let february : Period := .month 2015 2
    let books : Ledger Float := (Ledger.empty.post february (.large 2)).post february (.granted 10)
    let e : Engine Float := ⟨standard 0, t.terms, books⟩
    let xs := Shipment.readAll "2015-02-01 S MR\n2015-02-02 L LP\n2015-02-03 L LP\n".toList
    let unbounded : Terms Float := { t.terms with ceiling := 0.0 / 0.0 }
    let parcel : Shipment Float := { Shipment.unpriced (.unreadable "") .medium .laPoste with
      proposed := some 3 }
    (∃ amount, ((applyPrice 4).apply unbounded books parcel).1.discount = some amount ∧
        0 ≤ amount) ∧
      t.accept = .ok e.terms ∧ xs.map (·.period) = [february, february, february] ∧
      xs.map e.terms.base? = [some 2.0, some 6.9, some 6.9] ∧
      (e.run xs).1.map (·.proposed) = [some 0.5, some 6.9, none] ∧
      List.Forall₂ (fun s out => s.period = february → ∀ base, e.terms.base? s = some base →
        out.discount = some 0 ∧ out.price = some base) xs (e.run xs).1 ∧
      ∀ b ∈ e.books xs, (b.entry february).granted = (books.entry february).granted := by
  intro t february books e xs unbounded parcel
  have h : t.accept = .ok e.terms := Tariff.accept_eq_ok_iff.2 ⟨Tariff.usable_standard, rfl⟩
  have hparcel : unbounded.base? parcel = some 4.9 := by decide +kernel
  have hspent : e.terms.ceiling ≤ (books.entry february).granted := by decide +kernel
  obtain ⟨hclipped, hrun⟩ := exhausted_budget
  exact ⟨(hclipped 4 unbounded books parcel 4.9 hparcel).1 (by decide +kernel), h,
    by decide +kernel, by decide +kernel, by decide +kernel, hrun 0 t _ h books february hspent _⟩

end ParcelPricing
