import ParcelPricing.Proofs.Bookkeeping
import ParcelPricing.Proofs.LargeCount
import ParcelPricing.Proofs.Months

/-! What the standard rules leave alone. -/
namespace ParcelPricing
open Rule

variable {α : Type}

/-- A shipment that its provider has a price for, the provider being a known one. -/
def Terms.Charges (t : Terms α) (s : Shipment α) : Prop :=
  t.knowsProvider s.provider = true ∧ (t.prices.price? s.provider s.size).isSome

theorem Terms.isSome_base? {t : Terms α} {s : Shipment α} : (t.base? s).isSome ↔ t.Charges s := by
  rw [base?, Charges]
  split
  · simp_all
  · simp_all

/-- What becomes of a shipment, in all that its pricing does not decide. -/
structure Framed (t : Terms α) (s out : Shipment α) : Prop where
  date : out.date = s.date
  size : out.size = s.size
  provider : out.provider = s.provider
  ignored : out.ignored = true ↔ s.ignored = true ∨ s.date.isValid = false ∨
    t.knowsProvider s.provider = false ∨ t.knowsSize s.size = false
  proposed : out.proposed ≠ s.proposed →
    s.size = .small ∧ (t.prices.price? s.provider s.size).isSome ∨ s.IsLargeLaPoste

variable [Amount α] {t : Terms α} {l : Ledger α} {s : Shipment α}

/-- What one shipment can do to the books, `l` before it and `m` after it. -/
structure Ledger.FramedBy (t : Terms α) (s : Shipment α) (l m : Ledger α) : Prop where
  elsewhere {p : Period} : p ≠ s.period → m.months.get? p = l.months.get? p
  large {p : Period} : (m.entry p).large ≠ (l.entry p).large → s.IsLargeLaPoste
  granted {p : Period} : (m.entry p).granted ≠ (l.entry p).granted → t.Charges s
  hasEntry {p : Period} : m.hasEntry p = true → l.hasEntry p = true ∨
    s.IsLargeLaPoste ∨ t.Charges s

theorem Terms.smallProposal_eq
    (h : ¬ (s.size = .small ∧ (t.prices.price? s.provider s.size).isSome)) :
    t.smallProposal s = s.proposed := by
  rw [smallProposal]
  split
  · rename_i hsmall
    have hprice : t.prices.price? s.provider s.size = none :=
      Option.not_isSome_iff_eq_none.1 fun hprice => h ⟨hsmall, hprice⟩
    rw [hprice]
  · rfl

theorem framed_applyRules (first : Nat) : Framed t s (applyRules t (standard first) l s).1 := by
  have hproposed : (applyRules t (standard first) l s).1.proposed = (assessed t l s).proposed :=
    proposed_applyRules first
  obtain ⟨proposed, price, discount, hframe⟩ := applyRules_standard_frame (t := t) first l s
  rw [hframe] at hproposed ⊢
  refine ⟨rfl, rfl, rfl, ?_, fun hne => ?_⟩
  · simp only [Terms.reads, Bool.or_eq_true, Bool.not_and, Bool.not_eq_true', or_assoc]
  · by_contra hother
    rw [not_or] at hother
    apply hne
    rw [hproposed, proposed_assessed, if_neg fun h => hother.2 h.1]
    exact Terms.smallProposal_eq hother.1

theorem framedBy_applyRules (first : Nat) :
    l.FramedBy t s (applyRules t (standard first) l s).2.1 where
  elsewhere hp := (monthly_standard first).elsewhere hp.symm
  large {p} hne := by
    rw [large_applyRules] at hne
    by_contra hlarge
    exact hne (by rw [if_neg fun hcounts => hlarge hcounts.2, UInt32.add_zero])
  granted {p} hne := by
    rw [granted_applyRules] at hne
    by_contra hbase
    exact hne (if_neg fun hbooked => hbase (Terms.isSome_base?.1 hbooked.2))
  hasEntry {p} hp := by
    by_cases hlarge : s.IsLargeLaPoste
    · exact Or.inr (Or.inl hlarge)
    · by_cases hbase : t.Charges s
      · exact Or.inr (Or.inr hbase)
      · rw [← Terms.isSome_base?, Option.not_isSome_iff_eq_none] at hbase
        rw [books_of_other first hlarge hbase] at hp
        exact Or.inl hp

/-- A run gives one result for each shipment, within its frame; a single shipment changes the books
within its frame, and neither changes the terms. -/
theorem standard_frame (first : Nat) (t : Terms α) (l : Ledger α) (xs : List (Shipment α)) :
    let e : Engine α := ⟨standard first, t, l⟩
    List.Forall₂ (Framed t) xs (e.run xs).1 ∧ (e.run xs).2.terms = t ∧
      ∀ s, l.FramedBy t s (e.evaluate s).2.ledger ∧ (e.evaluate s).2.terms = t := by
  intro e
  have hresults : List.Forall₂ (Framed t) xs (runRules t (standard first) l xs).1 :=
    (keepTerms_standard first).forall₂_run (fun _ _ => framed_applyRules first) l xs
  exact ⟨hresults, (keepTerms_standard first).terms_run t l xs, fun s =>
    ⟨framedBy_applyRules first, (keepTerms_standard first).terms_applyRules t l s⟩⟩

end ParcelPricing
