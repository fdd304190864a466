import ParcelPricing.Proofs.StandardRules

/-! A month has granted what was taken off its priced shipments, in their order. -/
namespace ParcelPricing
open Rule

variable {α : Type} [Amount α] {t : Terms α} {l : Ledger α} {s : Shipment α}

/-- A shipment with a base price is charged that less its discount. Any other one keeps the price
and the discount that it came with. -/
def Charged (t : Terms α) (s out : Shipment α) : Prop :=
  match t.base? s with
  | some base => out.price = some (base - out.discount.getD 0)
  | none => out.price = s.price ∧ out.discount = s.discount

/-- What was taken off the priced shipments of a period, in their order. -/
def grants (t : Terms α) (p : Period) (results : List (Shipment α × Shipment α)) : List α :=
  (results.filter fun r => r.1.period = p ∧ (t.base? r.1).isSome).map fun r => r.2.discount.getD 0

theorem charged_applyRules (first : Nat) :
    Charged t s (applyRules t (standard first) l s).1 := by
  rw [applyRules_standard, Charged]
  cases t.base? s with
  | none => exact ⟨rfl, rfl⟩
  | some base => rfl

/-- A shipment is booked in its own month if it is priced, and nowhere else. -/
theorem granted_applyRules (first : Nat) (p : Period) :
    ((applyRules t (standard first) l s).2.1.entry p).granted =
      if s.period = p ∧ (t.base? s).isSome then
        (l.entry p).granted + (applyRules t (standard first) l s).1.discount.getD 0
      else (l.entry p).granted := by
  rw [applyRules_standard]
  cases hb : t.base? s with
  | none => simp [granted_counted]
  | some base =>
    have hperiod : (assessed t l s).period = s.period := rfl
    simp only [entry_priced, hperiod, Option.isSome_some, and_true]
    by_cases hp : s.period = p
    · rw [if_pos hp, if_pos hp.symm, MonthEntry.granted_post_granted, granted_counted]
    · rw [if_neg hp, if_neg (Ne.symm hp), granted_counted]

theorem charged_runRules (first : Nat) (l : Ledger α) (xs : List (Shipment α)) :
    List.Forall₂ (Charged t) xs (runRules t (standard first) l xs).1 :=
  (keepTerms_standard first).forall₂_run (fun _ _ => charged_applyRules first) l xs

theorem granted_runRules (first : Nat) (l : Ledger α) (xs : List (Shipment α)) (p : Period) :
    ((runRules t (standard first) l xs).2.1.entry p).granted =
      (grants t p (xs.zip (runRules t (standard first) l xs).1)).foldl (· + ·)
        (l.entry p).granted := by
  induction xs generalizing l with
  | nil => rfl
  | cons s xs ih =>
    rw [(keepTerms_standard first).run_cons, List.zip_cons_cons, ih, granted_applyRules]
    by_cases hs : s.period = p ∧ (t.base? s).isSome
    · simp only [grants, hs, and_self, decide_true, List.filter_cons_of_pos, List.map_cons,
        List.foldl_cons, if_true]
    · simp only [grants, hs, decide_false, Bool.false_eq_true, not_false_eq_true,
        List.filter_cons_of_neg, if_false]

/-- In doubles this holds to the last bit, since the books add the very amounts that are taken off,
in the order of the shipments. -/
theorem ledger_law (first : Nat) (t : Terms α) (l : Ledger α) (xs : List (Shipment α)) :
    let e : Engine α := ⟨standard first, t, l⟩
    List.Forall₂ (Charged t) xs (e.run xs).1 ∧
      ∀ p, ((e.run xs).2.ledger.entry p).granted =
        (grants t p (e.results xs)).foldl (· + ·) (l.entry p).granted :=
  ⟨charged_runRules first l xs, granted_runRules first l xs⟩

end ParcelPricing
