import ParcelPricing.Proofs.Months
import ParcelPricing.Proofs.TariffTerms

/-! Shipments that cannot be read have no way into the books of a month. -/
namespace ParcelPricing

variable {α : Type}

/-- Terms that price nothing unknown and know the shipments that are counted. -/
structure Terms.Closed (t : Terms α) : Prop where
  prices {provider : Provider} {size : PackageSize} :
    (t.prices.price? provider size).isSome →
      t.knowsProvider provider = true ∧ t.knowsSize size = true
  laPoste : t.knowsProvider .laPoste = true
  large : t.knowsSize .large = true

/-- Books with the same months. They may differ in what they hold for shipments without a date. -/
def Ledger.SameMonths (l m : Ledger α) : Prop :=
  ∀ year number, l.months.get? (.month year number) = m.months.get? (.month year number)

theorem Tariff.closed_terms {t : Tariff α}
    (hlines : ∀ line ∈ t.prices, line.provider ∈ t.providers ∧ line.size ∈ t.sizes)
    (hlaPoste : "LP" ∈ t.providers) (hlarge : "L" ∈ t.sizes) : t.terms.Closed where
  prices h := by
    obtain ⟨line, hline, rfl, rfl⟩ := listed_of_price?_terms h
    exact ⟨knowsProvider_terms.2 (hlines line hline).1, knowsSize_terms_ofCode.2 (hlines line hline).2⟩
  laPoste := knowsProvider_terms.2 hlaPoste
  large := knowsSize_terms.2 ⟨"L", hlarge, rfl⟩

open Rule
variable {t : Terms α} {s : Shipment α}

theorem Terms.Closed.not_isLargeLaPoste (ht : t.Closed) (hdate : s.date.isValid = true)
    (hs : ¬ t.reads s = true) : ¬ s.IsLargeLaPoste := by
  rintro ⟨hprovider, hsize⟩
  apply hs
  simp [reads, hdate, hprovider, hsize, ht.laPoste, ht.large]

theorem Terms.Closed.base?_eq_none (ht : t.Closed) (hdate : s.date.isValid = true)
    (hs : ¬ t.reads s = true) : t.base? s = none := by
  rw [base?]
  split
  · rename_i hprovider
    refine Option.not_isSome_iff_eq_none.1 fun hprice => hs ?_
    simp [reads, hdate, hprovider, (ht.prices hprice).2]
  · rfl

variable [Amount α] {l m : Ledger α}

/-- With a date, a shipment that cannot be read leaves the books as they are. -/
theorem Terms.Closed.books_of_not_reads (ht : t.Closed) (hdate : s.date.isValid = true)
    (hs : ¬ t.reads s = true) (first : Nat) : (applyRules t (standard first) l s).2.1 = l :=
  books_of_other first (ht.not_isLargeLaPoste hdate hs) (ht.base?_eq_none hdate hs)

theorem Terms.Closed.sameMonths_of_not_reads (ht : t.Closed) (hs : ¬ t.reads s = true)
    (first : Nat) : (applyRules t (standard first) l s).2.1.SameMonths l := by
  intro year number
  cases hdate : s.date with
  | valid date => rw [ht.books_of_not_reads (by rw [hdate]; rfl) hs]
  | unreadable text =>
    have hperiod : s.period = .undated := by rw [Shipment.period, hdate]; rfl
    exact (monthly_standard first).elsewhere (by simp [hperiod])

theorem sameMonths_of_reads (hs : t.reads s = true) (h : l.SameMonths m) (first : Nat) :
    (applyRules t (standard first) l s).1 = (applyRules t (standard first) m s).1 ∧
      (applyRules t (standard first) l s).2.1.SameMonths (applyRules t (standard first) m s).2.1 := by
  have hperiod : l.months.get? s.period = m.months.get? s.period := by
    cases hdate : s.date with
    | valid date =>
      rw [Shipment.period, hdate]
      exact h date.year date.month
    | unreadable text => simp [Terms.reads, hdate, ShipDate.isValid] at hs
  obtain ⟨hout, hbooks⟩ := (monthly_standard first).here (t := t) hperiod
  refine ⟨hout, fun year number => ?_⟩
  by_cases hp : s.period = .month year number
  · rw [← hp]
    exact hbooks
  · rw [(monthly_standard first).elsewhere hp, (monthly_standard first).elsewhere hp]
    exact h year number

/-- The results of the shipments that can be read are those of a run over them alone. -/
theorem runRules_filter_reads (ht : t.Closed) (first : Nat) (h : l.SameMonths m)
    (xs : List (Shipment α)) :
    (xs.zip (runRules t (standard first) l xs).1).filter (t.reads ·.1) =
        (xs.filter t.reads).zip (runRules t (standard first) m (xs.filter t.reads)).1 ∧
      (runRules t (standard first) l xs).2.1.SameMonths
        (runRules t (standard first) m (xs.filter t.reads)).2.1 := by
  refine (keepTerms_standard first).run_filter_of_related (fun hs hbooks => sameMonths_of_reads hs hbooks first) ?_ h xs
  intro l m s hs hbooks year number
  rw [ht.sameMonths_of_not_reads hs first year number]
  exact hbooks year number

/-- Shipments that cannot be read are harmless: two inputs that differ in such shipments alone give
all others the same results and leave every month with the same entry, or with none. -/
theorem rejected_harmless (first : Nat) {t : Terms α} (ht : t.Closed) (l : Ledger α)
    {xs ys : List (Shipment α)} (h : xs.filter t.reads = ys.filter t.reads) :
    let e : Engine α := ⟨standard first, t, l⟩
    (e.results xs).filter (t.reads ·.1) = (e.results ys).filter (t.reads ·.1) ∧
      (e.run xs).2.ledger.SameMonths (e.run ys).2.ledger := by
  have hl : l.SameMonths l := fun _ _ => rfl
  obtain ⟨hxs, hxbooks⟩ := runRules_filter_reads ht first hl xs
  obtain ⟨hys, hybooks⟩ := runRules_filter_reads ht first hl ys
  rw [h] at hxs hxbooks
  refine ⟨hxs.trans hys.symm, fun year number => ?_⟩
  exact (hxbooks year number).trans (hybooks year number).symm

/-- Large ones without a date, of an unknown provider and of no known size do not move the third
large shipment of a month. -/
theorem rejected_harmless_of_standard :
    let t : Terms Float := Tariff.standard.terms
    let january : ShipDate := .valid ⟨2024, 1, 31, by decide, by decide⟩
    let large (date : ShipDate) (provider : Provider) : Shipment Float :=
      .unpriced date .large provider
    let good := large january .laPoste
    let undated := large (.unreadable "2024-01-32") .laPoste
    let stranger := large january ⟨"DX"⟩
    let shapeless : Shipment Float := .unpriced january (.other "l") .laPoste
    t.Closed ∧
      let e : Engine Float := ⟨standard 0, t, .empty⟩
      (e.results [undated, good, stranger, good, shapeless, good]).filter (t.reads ·.1) =
          (e.results [good, good, good]).filter (t.reads ·.1) ∧
        (e.run [undated, good, stranger, good, shapeless, good]).2.ledger.SameMonths
          (e.run [good, good, good]).2.ledger := by
  intro t january large good undated stranger shapeless
  have ht : t.Closed := Tariff.closed_terms (by decide) (by decide) (by decide)
  have hgood : t.reads good = true := by decide
  have hundated : t.reads undated = false := by decide
  have hstranger : t.reads stranger = false := by decide
  have hshapeless : t.reads shapeless = false := by decide
  have hsame : [undated, good, stranger, good, shapeless, good].filter t.reads =
      [good, good, good].filter t.reads := by
    simp only [List.filter_cons, List.filter_nil, hgood, hundated, hstranger, hshapeless, if_true,
      Bool.false_eq_true, if_false]
  exact ⟨ht, rejected_harmless 0 ht .empty hsame⟩

end ParcelPricing
