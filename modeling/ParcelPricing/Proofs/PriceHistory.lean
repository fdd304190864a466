import Mathlib.Data.List.Induction
import ParcelPricing.Proofs.DoubleOrder

/-! A table of prices as its entries make it. -/
namespace ParcelPricing.PriceTable

variable {α : Type} {t : PriceTable α} {size : PackageSize}
  {entries others : List (PriceCell × α)}

theorem leastPrice?_eq_none_iff [Amount α] :
    t.leastPrice? size = none ↔ ∀ provider, t.price? provider size = none := by
  constructor
  · intro hnone provider
    cases hprice : t.price? provider size with
    | none => rfl
    | some price =>
      obtain ⟨least, hleast⟩ := exists_leastPrice? hprice
      cases hnone.symm.trans hleast
  · intro hnone
    cases hleast : t.leastPrice? size with
    | none => rfl
    | some least =>
      obtain ⟨provider, hprice⟩ := mem_pricesOf.1 (Amount.least?_mem hleast)
      cases (hnone provider).symm.trans hprice

def enter (t : PriceTable α) (entry : PriceCell × α) : PriceTable α :=
  t.insert entry.1.provider entry.1.size entry.2

/-- The table after some entries, from an empty one on. -/
def ofEntries (entries : List (PriceCell × α)) : PriceTable α := entries.foldl enter .empty

/-- The price entered last for a size of a provider. -/
def lastPrice? (entries : List (PriceCell × α)) (provider : Provider) (size : PackageSize) :
    Option α :=
  entries.reverse.lookup ⟨provider, size⟩

theorem ofEntries_concat (entries : List (PriceCell × α)) (entry : PriceCell × α) :
    ofEntries (entries ++ [entry]) = (ofEntries entries).enter entry :=
  List.foldl_concat ..

theorem lastPrice?_concat (entries : List (PriceCell × α)) (entry : PriceCell × α)
    (provider : Provider) (size : PackageSize) :
    lastPrice? (entries ++ [entry]) provider size =
      if provider = entry.1.provider ∧ size = entry.1.size then some entry.2
      else lastPrice? entries provider size := by
  obtain ⟨⟨_, _⟩, _⟩ := entry
  simp only [lastPrice?, List.reverse_concat, List.lookup_cons]
  split <;> simp_all

/-- An entry shows in its own cell and in no other, so in each cell the last one for it shows. -/
theorem price?_ofEntries (entries : List (PriceCell × α)) (provider : Provider)
    (size : PackageSize) :
    (ofEntries entries).price? provider size = lastPrice? entries provider size := by
  induction entries using List.reverseRecOn with
  | nil => rfl
  | append_singleton entries entry ih =>
    rw [ofEntries_concat, enter, price?_insert, lastPrice?_concat, ih]

theorem ofEntries_eq_iff : ofEntries entries = ofEntries others ↔
    ∀ provider size, lastPrice? entries provider size = lastPrice? others provider size := by
  constructor
  · intro h provider size
    rw [← price?_ofEntries, h, price?_ofEntries]
  · intro h
    refine ext_price? fun provider size => ?_
    rw [price?_ofEntries, price?_ofEntries, h]

/-- The least price of a size is the least of the prices entered last, NaN apart. The order of the
entries and what was overwritten leave no trace. -/
theorem least_of_last_prices (entries : List (PriceCell × Float)) (size : PackageSize) :
    let t := ofEntries entries
    (t.leastPrice? size = none ↔ ∀ provider, lastPrice? entries provider size = none) ∧
      (∀ least, t.leastPrice? size = some least →
        (∃ provider, lastPrice? entries provider size = some least) ∧
          ∀ provider price, lastPrice? entries provider size = some price →
            (price.isNaN = false → least ≤ price) ∧ (least.isNaN = true → price.isNaN = true)) ∧
      ∀ others : List (PriceCell × Float),
        (∀ provider size, lastPrice? entries provider size = lastPrice? others provider size) →
          t.leastPrice? size = (ofEntries others).leastPrice? size ∧
            ∀ provider, t.price? provider size = (ofEntries others).price? provider size := by
  intro t
  have hprice (provider : Provider) : t.price? provider size = lastPrice? entries provider size :=
    price?_ofEntries entries provider size
  refine ⟨?_, fun least hleast => ?_, fun others h => ?_⟩
  · rw [leastPrice?_eq_none_iff]
    simp only [hprice]
  · have hlowest := isLeastPrice_leastPrice? hleast
    simp only [← hprice]
    refine ⟨hlowest.listed, fun provider price hstanding => ?_⟩
    have hle : price.isNaN = false → least ≤ price := fun hnumber =>
      hlowest.le hstanding (Double.isNumber_iff_isNaN.2 hnumber)
    refine ⟨hle, fun hnan => ?_⟩
    -- If there were a number among the prices, the least price would be at most that, and a number.
    by_contra hnumber
    have hleast := (Amount.Ordered.isNumber (hle (Bool.eq_false_iff.2 hnumber))).1
    rw [Double.isNumber_iff_isNaN, hnan] at hleast
    cases hleast
  · have hsame : t = ofEntries others := ofEntries_eq_iff.2 h
    rw [hsame]
    exact ⟨rfl, fun provider => rfl⟩

/-- The lowest price of the small size was overwritten, and what is no number is all that is asked
for a further size. Other entries leave the same prices. -/
theorem least_of_last_prices_of_overwritten :
    let small (code : String) : PriceCell := ⟨⟨code⟩, .small⟩
    let entries : List (PriceCell × Float) := [(small "AX", 0.0 / 0.0), (small "LP", 1),
      (small "MR", 2.5), (⟨⟨"LP"⟩, .other "XL"⟩, 0.0 / 0.0), (small "LP", 3)]
    let others : List (PriceCell × Float) := [(small "LP", 3), (small "AX", 2),
      (⟨⟨"LP"⟩, .other "XL"⟩, 0.0 / 0.0), (small "MR", 2.5), (small "AX", 0.0 / 0.0)]
    let t := ofEntries entries
    (t.leastPrice? .small = some 2.5 ∧ lastPrice? entries ⟨"LP"⟩ .small = some 3 ∧
        (3 : Float).isNaN = false ∧ (2.5 : Float) ≤ 3) ∧
      (∃ least price, t.leastPrice? (.other "XL") = some least ∧ least.isNaN = true ∧
        lastPrice? entries ⟨"LP"⟩ (.other "XL") = some price ∧ price.isNaN = true) ∧
      (∀ provider size, lastPrice? entries provider size = lastPrice? others provider size) ∧
        t.leastPrice? .small = (ofEntries others).leastPrice? .small := by
  intro small entries others t
  have hsmall : t.leastPrice? .small = some 2.5 := by decide +kernel
  have hlarge : t.leastPrice? (.other "XL") = some (0.0 / 0.0) := by decide +kernel
  have hnumber : (3 : Float).isNaN = false := by decide
  have hnan : (0.0 / 0.0 : Float).isNaN = true := by decide
  have hsame (provider : Provider) (size : PackageSize) :
      lastPrice? entries provider size = lastPrice? others provider size := by
    simp only [lastPrice?, entries, others, small, List.reverse_cons, List.reverse_nil,
      List.nil_append, List.cons_append, List.lookup_cons, List.lookup_nil]
    grind
  obtain ⟨-, hstanding, hfree⟩ := least_of_last_prices entries .small
  obtain ⟨-, hnone, -⟩ := least_of_last_prices entries (.other "XL")
  have hle := ((hstanding _ hsmall).2 ⟨"LP"⟩ 3 rfl).1 hnumber
  have hall := ((hnone _ hlarge).2 ⟨"LP"⟩ (0.0 / 0.0) rfl).2 hnan
  exact ⟨⟨hsmall, rfl, hnumber, hle⟩, ⟨_, _, hlarge, hnan, rfl, hall⟩, hsame,
    (hfree others hsame).1⟩

end ParcelPricing.PriceTable
