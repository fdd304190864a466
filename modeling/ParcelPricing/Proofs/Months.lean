import ParcelPricing.Amount.Double
import ParcelPricing.Proofs.StandardRules

/-! Months do not meet, whatever other periods stand between their shipments. -/
namespace ParcelPricing

variable {α : Type}

/-- An effect that keeps the terms and the date of a shipment, and reads and writes the books at its
period alone. -/
structure Monthly (f : Effect α) : Prop where
  terms (t : Terms α) (l : Ledger α) (s : Shipment α) : (f t l s).2.2 = t
  date (t : Terms α) (l : Ledger α) (s : Shipment α) : (f t l s).1.date = s.date
  elsewhere {t : Terms α} {l : Ledger α} {s : Shipment α} {p : Period} :
    s.period ≠ p → (f t l s).2.1.months.get? p = l.months.get? p
  here {t : Terms α} {l m : Ledger α} {s : Shipment α} :
    l.months.get? s.period = m.months.get? s.period →
      (f t l s).1 = (f t m s).1 ∧
        (f t l s).2.1.months.get? s.period = (f t m s).2.1.months.get? s.period

theorem Monthly.comp {f g : Effect α} (hf : Monthly f) (hg : Monthly g) :
    Monthly fun t l s => g (f t l s).2.2 (f t l s).2.1 (f t l s).1 := by
  have hperiod : ∀ t l s, (f t l s).1.period = s.period :=
    fun t l s => congrArg ShipDate.period (hf.date t l s)
  refine ⟨fun t l s => ?_, fun t l s => ?_, fun {t l s p} hp => ?_, fun {t l m s} h => ?_⟩
  · rw [hg.terms, hf.terms]
  · rw [hg.date, hf.date]
  · rw [hg.elsewhere (by rwa [hperiod]), hf.elsewhere hp]
  · obtain ⟨hout, hbooks⟩ := hf.here (t := t) h
    rw [← hperiod t m s] at hbooks ⊢
    rw [hf.terms, hf.terms, hout]
    exact hg.here hbooks

variable [Amount α] {t : Terms α} {l m : Ledger α} {p : Period} {s : Shipment α}

theorem Ledger.entry_congr (h : l.months.get? p = m.months.get? p) : l.entry p = m.entry p := by
  rw [entry, entry, h]

theorem Ledger.get?_post_congr (h : l.months.get? p = m.months.get? p) (posting : Posting α) :
    (l.post p posting).months.get? p = (m.post p posting).months.get? p := by
  rw [get?_post, get?_post, if_pos rfl, if_pos rfl, entry_congr h]

theorem Ledger.get?_post_of_ne {q : Period} (h : q ≠ p) (posting : Posting α) :
    (l.post q posting).months.get? p = l.months.get? p := by
  rw [get?_post, if_neg h.symm]

namespace Rule

theorem get?_counted_of_ne (h : s.period ≠ p) :
    (counted l s).months.get? p = l.months.get? p := by
  rw [counted]
  split
  · exact Ledger.get?_post_of_ne h _
  · rfl

theorem get?_counted_congr (h : l.months.get? s.period = m.months.get? s.period) :
    (counted l s).months.get? s.period = (counted m s).months.get? s.period := by
  rw [counted, counted, Ledger.entry_congr h]
  split
  · exact Ledger.get?_post_congr h _
  · exact h

theorem priced_congr (h : l.months.get? s.period = m.months.get? s.period) (base : α) :
    (priced t l s base).1 = (priced t m s base).1 ∧
      (priced t l s base).2.months.get? s.period = (priced t m s base).2.months.get? s.period := by
  simp only [priced, charge, Ledger.entry_congr h]
  exact ⟨trivial, Ledger.get?_post_congr h _⟩

theorem monthly_apply {r : Rule α} (hr : r.IsStandard) : Monthly fun t l s => r.apply t l s := by
  cases hr with
  | ignoreUnreadable id =>
    simp only [apply_ignoreUnreadable]
    exact ⟨fun _ _ _ => rfl, fun _ _ _ => rfl, fun _ => rfl, fun h => ⟨rfl, h⟩⟩
  | lowestSmallPrice id =>
    simp only [apply_lowestSmallPrice]
    exact ⟨fun _ _ _ => rfl, fun _ _ _ => rfl, fun _ => rfl, fun h => ⟨rfl, h⟩⟩
  | countLarge id =>
    simp only [apply_countLarge]
    exact ⟨fun _ _ _ => rfl, fun _ _ _ => rfl, get?_counted_of_ne,
      fun h => ⟨rfl, get?_counted_congr h⟩⟩
  | thirdLargeFree id =>
    simp only [apply_thirdLargeFree]
    refine ⟨fun _ _ _ => rfl, fun _ _ _ => rfl, fun _ => rfl, fun h => ⟨?_, h⟩⟩
    rw [Ledger.entry_congr h]
  | applyPrice id =>
    simp only [apply_applyPrice]
    refine ⟨fun t l s => ?_, fun t l s => ?_, fun {t l s p} hp => ?_, fun {t l m s} h => ?_⟩
    all_goals cases t.base? s
    · rfl
    · rfl
    · rfl
    · rfl
    · rfl
    · exact Ledger.get?_post_of_ne hp _
    · exact ⟨rfl, h⟩
    · exact priced_congr h _

end Rule

theorem monthly_applyRules {rules : List (Rule α)}
    (h : ∀ r ∈ rules, Monthly fun t l s => r.apply t l s) :
    Monthly fun t l s => applyRules t rules l s := by
  induction rules with
  | nil => exact ⟨fun _ _ _ => rfl, fun _ _ _ => rfl, fun _ => rfl, fun h => ⟨rfl, h⟩⟩
  | cons r rest ih =>
    exact (h r List.mem_cons_self).comp (ih fun r' hr' => h r' (List.mem_cons_of_mem _ hr'))

theorem monthly_standard (first : Nat) :
    Monthly fun (t : Terms α) l s => applyRules t (Rule.standard first) l s := by
  exact monthly_applyRules fun r hr => Rule.monthly_apply (Rule.isStandard_of_mem hr)

/-- The results of a period are those of a run over its own shipments, from any books that agree
with the first ones at the period. -/
theorem runRules_filter {rules : List (Rule α)}
    (hrules : ∀ r ∈ rules, Monthly fun t l s => r.apply t l s)
    (hl : l.months.get? p = m.months.get? p) (xs : List (Shipment α)) :
    (xs.zip (runRules t rules l xs).1).filter (·.1.period = p) =
        (xs.filter (·.period = p)).zip (runRules t rules m (xs.filter (·.period = p))).1 ∧
      (runRules t rules l xs).2.1.months.get? p =
        (runRules t rules m (xs.filter (·.period = p))).2.1.months.get? p := by
  have hkeep : KeepTerms rules := fun r hr => (hrules r hr).terms
  have h := monthly_applyRules hrules
  refine hkeep.run_filter_of_related (P := (·.period = p))
    (R := fun l m => l.months.get? p = m.months.get? p) ?_ ?_ hl xs
  -- Both runs take a shipment of the period, from books that agree there.
  · intro l m s hs hbooks
    obtain rfl := of_decide_eq_true hs
    exact h.here hbooks
  -- Only the first run takes any other, and the entry of the period stays as it was.
  · intro l m s hs hbooks
    exact (h.elsewhere (by simpa using hs)).trans hbooks

/-- Months are independent: two inputs with the same shipments of a period, in the same order, get
the same results for them and leave the same entry of the period, or none. -/
theorem months_independent (e : Engine α) (he : ∀ r ∈ e.rules, r.IsStandard) (p : Period)
    (xs ys : List (Shipment α)) (h : xs.filter (·.period = p) = ys.filter (·.period = p)) :
    (e.results xs).filter (·.1.period = p) = (e.results ys).filter (·.1.period = p) ∧
      (e.run xs).2.ledger.months.get? p = (e.run ys).2.ledger.months.get? p := by
  have hrules : ∀ r ∈ e.rules, Monthly fun t l s => r.apply t l s :=
    fun r hr => Rule.monthly_apply (he r hr)
  obtain ⟨hxs, hxbooks⟩ := runRules_filter (t := e.terms) hrules (l := e.ledger) rfl xs
  obtain ⟨hys, hybooks⟩ := runRules_filter (t := e.terms) hrules (l := e.ledger) rfl ys
  rw [h] at hxs hxbooks
  exact ⟨hxs.trans hys.symm, hxbooks.trans hybooks.symm⟩

/-- Rules repeated and out of order, and two inputs that differ in another month and without a
date. -/
theorem january_independent :
    let parcel (date : ShipDate) : Shipment Float := .unpriced date .large .laPoste
    let january := parcel (.valid ⟨2024, 1, 31, by decide, by decide⟩)
    let february := parcel (.valid ⟨2024, 2, 1, by decide, by decide⟩)
    let undated := parcel (.unreadable "2024-01-32")
    let e : Engine Float := ⟨[.applyPrice 0, .countLarge 1, .thirdLargeFree 2, .countLarge 1],
      ⟨PriceTable.empty.insert .laPoste .large 6.9, 10, .ofKeys [.laPoste], .ofKeys [.large]⟩,
      .empty⟩
    (e.results [february, january, undated, january]).filter (·.1.period = .month 2024 1) =
        (e.results [january, january, february]).filter (·.1.period = .month 2024 1) ∧
      (e.run [february, january, undated, january]).2.ledger.months.get? (.month 2024 1) =
        (e.run [january, january, february]).2.ledger.months.get? (.month 2024 1) := by
  intro parcel january february undated e
  have he : ∀ r ∈ e.rules, r.IsStandard := by
    intro r hr
    simp only [e, List.mem_cons, List.not_mem_nil, or_false] at hr
    rcases hr with rfl | rfl | rfl | rfl
    · exact .applyPrice 0
    · exact .countLarge 1
    · exact .thirdLargeFree 2
    · exact .countLarge 1
  exact months_independent e he (.month 2024 1) [february, january, undated, january]
    [january, january, february] rfl

end ParcelPricing
