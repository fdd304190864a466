import ParcelPricing.Proofs.Bookkeeping
import ParcelPricing.Proofs.TariffCheck

namespace ParcelPricing

variable {α : Type}

theorem PriceTable.price?_insert_line (table : PriceTable α) (line : PriceLine α)
    (provider size : String) :
    (table.insert ⟨line.provider⟩ (.ofCode line.size) line.price).price? ⟨provider⟩ (.ofCode size) =
      if line.pair = (provider, size) then some line.price
      else table.price? ⟨provider⟩ (.ofCode size) := by
  have hcell : (⟨provider⟩ : Provider) = ⟨line.provider⟩ ∧
      PackageSize.ofCode size = .ofCode line.size ↔ line.pair = (provider, size) := by
    rw [PriceLine.pair, Prod.mk.injEq, Provider.mk.injEq, eq_comm, eq_comm (a := line.size)]
    exact and_congr_right' ⟨PackageSize.ofCode_injective, congrArg _⟩
  simp only [price?_insert, hcell]

namespace Tariff
variable {t : Tariff α}

theorem priceOf?_eq (t : Tariff α) (provider size : String) : t.priceOf? provider size =
    (t.prices.find? fun line => line.pair = (provider, size)).map (·.price) := by
  simp only [priceOf?, PriceLine.pair, Prod.mk.injEq, Bool.decide_and]

/-- A price is listed if some line lists it, wherever the line stands. -/
theorem isSome_priceOf? {provider size : String} : (t.priceOf? provider size).isSome ↔
    ∃ line ∈ t.prices, line.pair = (provider, size) := by
  simp [priceOf?_eq, List.find?_isSome]

/-- Lines entered into a table answer before what was in it, and each pair has one line at most, so
that the last line of a pair is the first. -/
theorem price?_foldl {lines : List (PriceLine α)} (h : (lines.map PriceLine.pair).Nodup)
    (table : PriceTable α) (provider size : String) :
    (lines.foldl (fun table line => table.insert ⟨line.provider⟩ (.ofCode line.size) line.price)
        table).price? ⟨provider⟩ (.ofCode size) =
      ((lines.find? fun line => line.pair = (provider, size)).map (·.price)).or
        (table.price? ⟨provider⟩ (.ofCode size)) := by
  induction lines generalizing table with
  | nil => rfl
  | cons line rest ih =>
    obtain ⟨hnew, hrest⟩ := List.nodup_cons.1 h
    rw [List.foldl_cons, ih hrest, PriceTable.price?_insert_line, List.find?_cons]
    by_cases hline : line.pair = (provider, size)
    · have hnone : rest.find? (fun other => other.pair = (provider, size)) = none := by
        refine List.find?_eq_none.2 fun other hother hpair => hnew ?_
        rw [hline, ← of_decide_eq_true hpair]
        exact List.mem_map_of_mem hother
      simp only [hline, hnone, if_true, decide_true, Option.map_none, Option.none_or,
        Option.map_some, Option.some_or]
    · simp only [hline, if_false, decide_false]

theorem price?_terms (h : (t.prices.map PriceLine.pair).Nodup) (provider size : String) :
    t.terms.prices.price? ⟨provider⟩ (.ofCode size) = t.priceOf? provider size := by
  rw [priceOf?_eq, terms, priceTable, price?_foldl h]
  exact Option.or_none

/-- Nothing has a price that is not listed. -/
theorem listed_of_price?_foldl {lines : List (PriceLine α)} {table : PriceTable α}
    {provider : Provider} {size : PackageSize}
    (h : ((lines.foldl (fun table line => table.insert ⟨line.provider⟩ (.ofCode line.size) line.price)
      table).price? provider size).isSome) :
    (∃ line ∈ lines, provider = ⟨line.provider⟩ ∧ size = .ofCode line.size) ∨
      (table.price? provider size).isSome := by
  induction lines generalizing table with
  | nil => exact Or.inr h
  | cons line rest ih =>
    rw [List.foldl_cons] at h
    rcases ih h with ⟨other, hother, hcell⟩ | hprice
    · exact Or.inl ⟨other, List.mem_cons_of_mem _ hother, hcell⟩
    · rw [PriceTable.price?_insert] at hprice
      split at hprice
      · rename_i hcell
        exact Or.inl ⟨line, List.mem_cons_self, hcell⟩
      · exact Or.inr hprice

theorem listed_of_price?_terms {provider : Provider} {size : PackageSize}
    (h : (t.terms.prices.price? provider size).isSome) :
    ∃ line ∈ t.prices, provider = ⟨line.provider⟩ ∧ size = .ofCode line.size := by
  rcases listed_of_price?_foldl h with hlisted | hempty
  · exact hlisted
  · cases hempty

theorem knowsProvider_terms {provider : Provider} :
    t.terms.knowsProvider provider = true ↔ provider.code ∈ t.providers := by
  rw [Terms.knowsProvider, terms, SortedSet.contains_ofKeys, List.mem_map]
  constructor
  · rintro ⟨code, hcode, rfl⟩
    exact hcode
  · intro hcode
    exact ⟨provider.code, hcode, rfl⟩

theorem knowsSize_terms {size : PackageSize} :
    t.terms.knowsSize size = true ↔ ∃ code ∈ t.sizes, .ofCode code = size := by
  rw [Terms.knowsSize, terms, SortedSet.contains_ofKeys, List.mem_map]

theorem knowsSize_terms_ofCode {code : String} :
    t.terms.knowsSize (.ofCode code) = true ↔ code ∈ t.sizes := by
  rw [knowsSize_terms]
  constructor
  · rintro ⟨other, hother, heq⟩
    rwa [← PackageSize.ofCode_injective heq]
  · intro hcode
    exact ⟨code, hcode, rfl⟩

variable [Amount α] {terms : Terms α} {s : Shipment α}

/-- A usable tariff has a price for whatever can be read under it. -/
theorem base?_terms (h : t.Usable) (hs : t.terms.reads s = true) :
    ∃ base, t.priceOf? s.provider.code s.size.code = some base ∧ t.terms.base? s = some base := by
  simp only [Terms.reads, Bool.and_eq_true] at hs
  obtain ⟨⟨-, hprovider⟩, hsize⟩ := hs
  obtain ⟨code, hcode, heq⟩ := knowsSize_terms.1 hsize
  have hprice : t.terms.prices.price? s.provider s.size = t.priceOf? s.provider.code code := by
    rw [← heq]
    exact price?_terms h.distinct s.provider.code code
  obtain ⟨base, hbase⟩ := Option.isSome_iff_exists.1
    (h.complete _ (knowsProvider_terms.1 hprovider) code hcode)
  refine ⟨base, ?_, ?_⟩
  · rw [← heq, PackageSize.code_ofCode, hbase]
  · rw [Terms.base?, if_pos hprovider, hprice, hbase]

theorem price_nonneg (h : t.Usable) {provider : Provider} {size : PackageSize} {price : α}
    (hprice : t.terms.prices.price? provider size = some price) : 0 ≤ price := by
  obtain ⟨line, -, rfl, rfl⟩ := listed_of_price?_terms (Option.isSome_of_eq_some hprice)
  rw [price?_terms h.distinct, priceOf?_eq, Option.map_eq_some_iff] at hprice
  obtain ⟨found, hfound, rfl⟩ := hprice
  exact h.prices found (List.mem_of_find?_eq_some hfound)

/-- The terms of an accepted tariff answer every question by its codes as the tariff does. -/
theorem accept_agrees (h : t.accept = .ok terms) (provider size : String) :
    terms.prices.price? ⟨provider⟩ (.ofCode size) = t.priceOf? provider size ∧
      (terms.knowsProvider ⟨provider⟩ = true ↔ provider ∈ t.providers) ∧
      (terms.knowsSize (.ofCode size) = true ↔ size ∈ t.sizes) := by
  obtain ⟨husable, rfl⟩ := accept_eq_ok_iff.1 h
  exact ⟨price?_terms husable.distinct provider size, knowsProvider_terms, knowsSize_terms_ofCode⟩

/-- A price may be listed for a provider that is not known, and a size need not be one of the
three. -/
theorem accept_agrees_of_unknown :
    let t : Tariff Float := ⟨10, ["LP"], ["S", "XL"],
      [⟨"LP", "S", 1.5⟩, ⟨"LP", "XL", 9⟩, ⟨"DX", "S", 0.5⟩]⟩
    t.accept = .ok t.terms ∧ t.terms.prices.price? ⟨"DX"⟩ .small = some 0.5 ∧
      ¬ t.terms.knowsProvider ⟨"DX"⟩ = true ∧ t.terms.knowsSize (.other "XL") = true := by
  intro t
  have h : t.accept = .ok t.terms := accept_eq_ok_iff.2
    ⟨⟨by decide, by decide, by decide, by decide, by decide, by decide⟩, rfl⟩
  obtain ⟨hprice, hprovider, -⟩ := accept_agrees h "DX" "S"
  refine ⟨h, hprice, ?_, (accept_agrees h "LP" "XL").2.2.2 (by decide)⟩
  rw [hprovider]
  decide

end Tariff

open Rule Tariff
variable [Amount α]

/-- Under an accepted tariff nothing is silently left without a price: a shipment is set aside, or
it can be read and is charged the price that is listed for it less its discount. -/
theorem priced_or_ignored (first : Nat) {t : Tariff α} {terms : Terms α}
    (h : t.accept = .ok terms) (l : Ledger α) (xs : List (Shipment α)) :
    let e : Engine α := ⟨standard first, terms, l⟩
    ∀ out ∈ (e.run xs).1, out.ignored = true ∨
      (out.date.isValid = true ∧ terms.knowsProvider out.provider = true ∧
        terms.knowsSize out.size = true ∧
        ∃ base, t.priceOf? out.provider.code out.size.code = some base ∧
          out.price = some (base - out.discount.getD 0)) := by
  intro e out hout
  obtain ⟨husable, rfl⟩ := accept_eq_ok_iff.1 h
  obtain ⟨s, -, m, hs⟩ := (keepTerms_standard first).mem_run hout
  obtain ⟨proposed, price, discount, hframe⟩ := applyRules_standard_frame (t := t.terms) first m s
  have hcharged : Charged t.terms s out := hs ▸ charged_applyRules first
  obtain rfl := hs.trans hframe
  by_cases hreads : t.terms.reads s = true
  · right
    obtain ⟨base, hlisted, hbase⟩ := base?_terms husable hreads
    simp only [Charged, hbase] at hcharged
    simp only [Terms.reads, Bool.and_eq_true] at hreads
    exact ⟨hreads.1.1, hreads.1.2, hreads.2, base, hlisted, hcharged⟩
  · left
    simp [hreads]

/-- Two shipments that come with a price already, one of which is set aside. -/
theorem priced_or_ignored_of_standard :
    let t : Tariff Float := .standard
    let parcel (date : ShipDate) : Shipment Float :=
      { Shipment.unpriced date .large ⟨"MR"⟩ with price := some 100 }
    let e : Engine Float := ⟨standard 0, t.terms, .empty⟩
    let outs := (e.run [parcel (.unreadable "2024-01-32"),
      parcel (.valid ⟨2024, 1, 31, by decide, by decide⟩)]).1
    t.accept = .ok e.terms ∧ outs.map (·.ignored) = [true, false] ∧
      ∀ out ∈ outs, out.ignored = true ∨
        ∃ base, t.priceOf? out.provider.code out.size.code = some base ∧
          out.price = some (base - out.discount.getD 0) := by
  intro t parcel e outs
  have h : t.accept = .ok e.terms := accept_eq_ok_iff.2 ⟨usable_standard, rfl⟩
  refine ⟨h, by decide +kernel, fun out hout => ?_⟩
  exact (priced_or_ignored 0 h .empty _ out hout).imp_right fun hpriced => hpriced.2.2.2

end ParcelPricing
