import ParcelPricing.Amount.Double
import ParcelPricing.Tariff.Check

namespace ParcelPricing

variable {α : Type}

/-- The codes that a price is listed under. -/
def PriceLine.pair (line : PriceLine α) : String × String := (line.provider, line.size)

namespace Tariff
variable {t : Tariff α}

theorem find?_knownPairs_eq_none_iff :
    (t.knownPairs.find? fun pair => (t.priceOf? pair.1 pair.2).isNone) = none ↔
      ∀ provider ∈ t.providers, ∀ size ∈ t.sizes, (t.priceOf? provider size).isSome := by
  simp only [List.find?_eq_none, knownPairs, List.mem_flatMap, List.mem_map]
  constructor
  · intro h provider hprovider size hsize
    have hpair := h (provider, size) ⟨provider, hprovider, size, hsize, rfl⟩
    simpa [Option.isSome_iff_ne_none] using hpair
  · rintro h _ ⟨provider, hprovider, size, hsize, rfl⟩
    have hpair := h provider hprovider size hsize
    simpa [Option.isSome_iff_ne_none] using hpair

variable [Amount α] {terms : Terms α}

/-- A tariff that gives each known provider one price for each known size, none below zero. -/
structure Usable (t : Tariff α) : Prop where
  ceiling : 0 < t.ceiling
  providers : t.providers ≠ []
  sizes : t.sizes ≠ []
  prices : ∀ line ∈ t.prices, 0 ≤ line.price
  distinct : (t.prices.map PriceLine.pair).Nodup
  complete : ∀ provider ∈ t.providers, ∀ size ∈ t.sizes, (t.priceOf? provider size).isSome

/-- What holds when the settings say nothing passes the check. -/
theorem usable_standard : (standard : Tariff Float).Usable :=
  ⟨by decide, by decide, by decide, by decide, by decide, by decide⟩

theorem checkLines_eq_ok_iff {seen : List (String × String)} {lines : List (PriceLine α)} :
    checkLines seen lines = .ok () ↔ (∀ line ∈ lines, 0 ≤ line.price) ∧
      (lines.map PriceLine.pair).Nodup ∧ ∀ line ∈ lines, line.pair ∉ seen := by
  induction lines generalizing seen with
  | nil => simp [checkLines]
  | cons line rest ih =>
    rw [checkLines]
    change (if ¬ 0 ≤ line.price then _ else if line.pair ∈ seen then _ else
      checkLines (line.pair :: seen) rest) = _ ↔ _
    by_cases hprice : 0 ≤ line.price
    · by_cases hseen : line.pair ∈ seen
      · rw [if_neg (not_not_intro hprice), if_pos hseen]
        simp [hseen]
      · rw [if_neg (not_not_intro hprice), if_neg hseen, ih]
        constructor
        · rintro ⟨hprices, hdistinct, hfresh⟩
          refine ⟨List.forall_mem_cons.2 ⟨hprice, hprices⟩, ?_, ?_⟩
          · refine List.nodup_cons.2 ⟨fun hmem => ?_, hdistinct⟩
            obtain ⟨other, hother, hpair⟩ := List.mem_map.1 hmem
            exact hfresh other hother (List.mem_cons.2 (Or.inl hpair))
          · refine List.forall_mem_cons.2 ⟨hseen, fun other hother hmem => ?_⟩
            exact hfresh other hother (List.mem_cons_of_mem _ hmem)
        · rintro ⟨hprices, hdistinct, hfresh⟩
          obtain ⟨hnew, hrest⟩ := List.nodup_cons.1 hdistinct
          refine ⟨(List.forall_mem_cons.1 hprices).2, hrest, fun other hother hmem => ?_⟩
          rcases List.mem_cons.1 hmem with hpair | hmem
          · exact hnew (List.mem_map.2 ⟨other, hother, hpair⟩)
          · exact hfresh other (List.mem_cons_of_mem _ hother) hmem
    · rw [if_pos hprice]
      simp [hprice]

/-- The faults in the order of their checks. -/
theorem check_eq (t : Tariff α) : t.check =
    if ¬ 0 < t.ceiling then .error (.ceilingNotPositive t.ceiling)
    else if t.providers = [] then .error .noProvider
    else if t.sizes = [] then .error .noSize
    else (checkLines [] t.prices).bind fun _ =>
      match t.knownPairs.find? fun pair => (t.priceOf? pair.1 pair.2).isNone with
      | some (provider, size) => .error (.missingPrice provider size)
      | none => .ok () := rfl

theorem check_eq_ok_iff : t.check = .ok () ↔ t.Usable := by
  have hsteps : t.check = .ok () ↔
      0 < t.ceiling ∧ t.providers ≠ [] ∧ t.sizes ≠ [] ∧ checkLines [] t.prices = .ok () ∧
        (t.knownPairs.find? fun pair => (t.priceOf? pair.1 pair.2).isNone) = none := by
    rw [check_eq]
    by_cases hceiling : 0 < t.ceiling
    · by_cases hproviders : t.providers = []
      · simp [hceiling, hproviders]
      · by_cases hsizes : t.sizes = []
        · simp [hceiling, hproviders, hsizes]
        · simp only [hceiling, hproviders, hsizes, not_true, if_false]
          cases checkLines [] t.prices with
          | error f => simp [Except.bind]
          | ok _ =>
            cases t.knownPairs.find? fun pair => (t.priceOf? pair.1 pair.2).isNone with
            | none => simp [Except.bind, hproviders, hsizes]
            | some pair => simp [Except.bind]
    · simp [hceiling]
  rw [hsteps, checkLines_eq_ok_iff, find?_knownPairs_eq_none_iff]
  constructor
  · rintro ⟨hceiling, hproviders, hsizes, ⟨hprices, hdistinct, -⟩, hcomplete⟩
    exact ⟨hceiling, hproviders, hsizes, hprices, hdistinct, hcomplete⟩
  · intro h
    have hfresh : ∀ line ∈ t.prices, line.pair ∉ ([] : List (String × String)) :=
      fun line _ => List.not_mem_nil
    exact ⟨h.ceiling, h.providers, h.sizes, ⟨h.prices, h.distinct, hfresh⟩, h.complete⟩

theorem accept_eq_ok_iff : t.accept = .ok terms ↔ t.Usable ∧ terms = t.terms := by
  rw [← check_eq_ok_iff, accept]
  cases t.check with
  | error f => simp [bind, Except.bind]
  | ok _ => simp [bind, Except.bind, pure, Except.pure, eq_comm]

end Tariff

end ParcelPricing
