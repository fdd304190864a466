import ParcelPricing.Amount.Double
import ParcelPricing.Proofs.StandardRules

/-! Which shipment is the third does not depend on how they are cut into runs. -/
namespace ParcelPricing
open Rule

variable {α : Type}

/-- A shipment of the count that came without a proposal and was given one. -/
def MadeFree (p : Period) (r : Shipment α × Shipment α) : Prop :=
  r.1.CountsIn p ∧ r.1.proposed.isNone ∧ r.2.proposed.isSome

instance (p : Period) (r : Shipment α × Shipment α) : Decidable (MadeFree p r) :=
  inferInstanceAs (Decidable (_ ∧ _ ∧ _))

variable [Amount α] {t : Terms α} {l : Ledger α} {s : Shipment α} {p : Period}
  {xs : List (Shipment α)}

/-- The shipments do not take the count of a period beyond what it can hold. -/
def Ledger.CanCount (l : Ledger α) (p : Period) (xs : List (Shipment α)) : Prop :=
  (l.entry p).large.toNat + xs.countP (·.CountsIn p) < UInt32.size

theorem large_applyRules (first : Nat) (p : Period) :
    ((applyRules t (standard first) l s).2.1.entry p).large =
      (l.entry p).large + if s.CountsIn p then 1 else 0 := by
  rw [applyRules_standard, ← large_counted]
  cases t.base? s with
  | none => rfl
  | some base => exact large_priced base p

/-- One shipment adds one to what can still be counted, or nothing. -/
theorem Ledger.CanCount.step (first : Nat) (h : l.CanCount p (s :: xs)) :
    let m := (applyRules t (standard first) l s).2.1
    (m.entry p).large.toNat = (l.entry p).large.toNat + (if s.CountsIn p then 1 else 0) ∧
      m.CanCount p xs := by
  intro m
  simp only [CanCount, List.countP_cons, decide_eq_true_eq] at h
  have hlarge : (m.entry p).large.toNat =
      (l.entry p).large.toNat + if s.CountsIn p then 1 else 0 := by
    rw [large_applyRules, UInt32.toNat_add]
    split at h
    · rename_i hs
      rw [if_pos hs, if_pos hs]
      exact Nat.mod_eq_of_lt (Nat.lt_of_le_of_lt (by rw [UInt32.toNat_one]; omega) h)
    · rename_i hs
      rw [if_neg hs, if_neg hs]
      exact Nat.mod_eq_of_lt (l.entry p).large.toNat_lt
  refine ⟨hlarge, ?_⟩
  rw [CanCount, hlarge]
  omega

theorem Ledger.CanCount.of_append {ys : List (Shipment α)} (h : l.CanCount p (xs ++ ys)) :
    l.CanCount p xs := by
  rw [CanCount, List.countP_append] at h
  rw [CanCount]
  omega

theorem large_runRules (first : Nat) (h : l.CanCount p xs) :
    ((runRules t (standard first) l xs).2.1.entry p).large.toNat =
      (l.entry p).large.toNat + xs.countP (·.CountsIn p) := by
  induction xs generalizing l with
  | nil => rfl
  | cons s xs ih =>
    obtain ⟨hlarge, hrest⟩ := h.step (t := t) first
    rw [(keepTerms_standard first).run_cons, ih hrest, hlarge, List.countP_cons]
    simp only [decide_eq_true_eq]
    omega

/-- A count that wraps around does not come to three. -/
theorem add_one_eq_freeShipment_iff {count : UInt32} :
    count + 1 = freeShipment ↔ count.toNat + 1 = 3 := by
  have hlt : count.toNat < 2 ^ 32 := count.toNat_lt
  have hone : (1 : UInt32).toNat = 1 := rfl
  have hfree : freeShipment.toNat = 3 := rfl
  rw [← UInt32.toNat_inj, UInt32.toNat_add, hone, hfree]
  omega

/-- The count that decides includes the shipment itself. -/
theorem proposed_of_isLargeLaPoste (first : Nat) (hs : s.IsLargeLaPoste) :
    (applyRules t (standard first) l s).1.proposed =
      if (l.entry s.period).large.toNat + 1 = 3 then t.prices.price? .laPoste .large
      else s.proposed := by
  have hsmall : t.smallProposal s = s.proposed := by
    simp [Terms.smallProposal, hs.2]
  have hlarge : ((counted l s).entry s.period).large = (l.entry s.period).large + 1 := by
    simp [large_counted, Shipment.CountsIn, hs]
  rw [proposed_applyRules, proposed_assessed, hlarge, hsmall, hs.1, hs.2]
  simp only [hs, true_and, add_one_eq_freeShipment_iff]

/-- The identities of the rules do not matter. -/
theorem runRules_standard (first other : Nat) (l : Ledger α) (xs : List (Shipment α)) :
    runRules t (standard first) l xs = runRules t (standard other) l xs :=
  runRules_congr (fun t l s => by rw [applyRules_standard, applyRules_standard]) t l xs

/-- Batches of shipments one after another on the same books. Each has an engine of its own, with
the standard rules under other identities perhaps. -/
def standardRuns (t : Terms α) (l : Ledger α) :
    List (Nat × List (Shipment α)) → List (Shipment α) × Ledger α × Terms α
  | [] => ([], l, t)
  | (first, batch) :: rest =>
    let (out, e) := Engine.run ⟨standard first, t, l⟩ batch
    let (others, l, t) := standardRuns e.terms e.ledger rest
    (out ++ others, l, t)

theorem standardRuns_eq (first : Nat) (l : Ledger α) (batches : List (Nat × List (Shipment α))) :
    standardRuns t l batches = runRules t (standard first) l (batches.flatMap (·.2)) := by
  induction batches generalizing t l with
  | nil => rfl
  | cons batch rest ih =>
    rw [List.flatMap_cons, runRules_append, runRules_standard first batch.1, ← ih]
    rfl

theorem large_of_madeFree {first : Nat}
    (h : MadeFree p (s, (applyRules t (standard first) l s).1)) :
    s.CountsIn p ∧ (l.entry p).large.toNat + 1 = 3 := by
  obtain ⟨hs, hnone, hsome⟩ := h
  refine ⟨hs, Decidable.byContradiction fun hlarge => ?_⟩
  have hout := proposed_of_isLargeLaPoste (t := t) (l := l) first hs.2
  rw [hs.1, if_neg hlarge] at hout
  simp_all

/-- At most one shipment of a run is made free, and none once the count is at three. -/
theorem countP_madeFree (first : Nat) (h : l.CanCount p xs) :
    let free := (xs.zip (runRules t (standard first) l xs).1).countP fun r => MadeFree p r
    free ≤ 1 ∧ (3 ≤ (l.entry p).large.toNat → free = 0) := by
  induction xs generalizing l with
  | nil => simp
  | cons s xs ih =>
    obtain ⟨hlarge, hrest⟩ := h.step (t := t) first
    obtain ⟨hone, hnone⟩ := ih hrest
    rw [hlarge] at hnone
    rw [(keepTerms_standard first).run_cons, List.zip_cons_cons, List.countP_cons]
    by_cases hfree : MadeFree p (s, (applyRules t (standard first) l s).1)
    -- This shipment brings the count to three, so nothing is left for the others.
    · obtain ⟨hs, hlarge⟩ := large_of_madeFree hfree
      have hrest := hnone (by rw [if_pos hs]; omega)
      simp only [hfree, decide_true, if_true]
      constructor
      · omega
      · intro h
        omega
    · simp only [hfree, decide_false, Bool.false_eq_true, if_false, Nat.add_zero]
      exact ⟨hone, fun h => hnone (Nat.le_trans h (Nat.le_add_right _ _))⟩

/-- While the count of a period can hold its large shipments of that provider, it grows by them alone,
and in any number of runs one of them at most is made free: the third. -/
theorem third_large_law (first : Nat) (t : Terms α) (l : Ledger α) (xs : List (Shipment α)) :
    let e : Engine α := ⟨standard first, t, l⟩
    (∀ p, l.CanCount p xs → ((e.run xs).2.ledger.entry p).large.toNat =
        (l.entry p).large.toNat + xs.countP (·.CountsIn p)) ∧
      (∀ p before s after, xs = before ++ s :: after → l.CanCount p xs → s.CountsIn p →
        ∃ out, (e.run xs).1[before.length]? = some out ∧
          out.proposed = if (l.entry p).large.toNat + (before.countP (·.CountsIn p) + 1) = 3 then
              t.prices.price? .laPoste .large
            else s.proposed) ∧
      ∀ (batches : List (Nat × List (Shipment α))) (p : Period),
        l.CanCount p (batches.flatMap (·.2)) →
          ((batches.flatMap (·.2)).zip (standardRuns t l batches).1).countP
            (fun r => MadeFree p r) ≤ 1 := by
  intro e
  refine ⟨fun p h => large_runRules first h, ?_, ?_⟩
  · rintro p before s after rfl h hs
    refine ⟨_, (keepTerms_standard first).getElem?_run before after, ?_⟩
    rw [proposed_of_isLargeLaPoste first hs.2, hs.1, large_runRules first h.of_append, Nat.add_assoc]
  · intro batches p h
    rw [standardRuns_eq first]
    exact (countP_madeFree first h).1

/-- A shipment of another month and one already counted before the run do not shift the third. -/
theorem third_of_january_free :
    let parcel (date : CalendarDate) : Shipment Float := .unpriced (.valid date) .large .laPoste
    let january := parcel ⟨2024, 1, 31, by decide, by decide⟩
    let february := parcel ⟨2024, 2, 1, by decide, by decide⟩
    let e : Engine Float := ⟨standard 0, ⟨PriceTable.empty.insert .laPoste .large 6.9, 10,
      .ofKeys [.laPoste], .ofKeys [.large]⟩, Ledger.empty.post (.month 2024 1) (.large 1)⟩
    ∃ out, (e.run [january, february, january, january]).1[2]? = some out ∧
      out.proposed = some 6.9 := by
  intro parcel january february e
  have hcan : e.ledger.CanCount (.month 2024 1) [january, february, january, january] := by
    rw [Ledger.CanCount]
    decide
  obtain ⟨out, hout, hproposed⟩ := (third_large_law 0 e.terms e.ledger _).2.1 (.month 2024 1)
    [january, february] january [january] rfl hcan ⟨rfl, rfl, rfl⟩
  refine ⟨out, hout, hproposed.trans ?_⟩
  have hcount : (e.ledger.entry (.month 2024 1)).large.toNat +
      ([january, february].countP (·.CountsIn (.month 2024 1)) + 1) = 3 := by
    decide
  rw [if_pos hcount]
  exact SortedMap.get?_insert_self ..

end ParcelPricing
