import ParcelPricing.Amount
import ParcelPricing.Shipment.Provider
import ParcelPricing.Shipment.Size
import ParcelPricing.SortedMap

namespace ParcelPricing

structure PriceCell where
  provider : Provider
  size : PackageSize
deriving DecidableEq

namespace PriceCell

instance : Ord PriceCell := ⟨compareLex (compareOn provider) (compareOn size)⟩

instance : Std.TransOrd PriceCell :=
  inferInstanceAs (Std.TransCmp (compareLex (compareOn provider) (compareOn size)))

instance : Std.LawfulEqOrd PriceCell where
  eq_of_compare {a b} h := by
    obtain ⟨hp, hs⟩ := compareLex_eq_eq.1 h
    have hp : a.provider = b.provider := Std.LawfulEqOrd.eq_of_compare hp
    have hs : a.size = b.size := Std.LawfulEqOrd.eq_of_compare hs
    cases a; cases b; simp_all

end PriceCell

structure PriceTable (α : Type) where
  cells : SortedMap PriceCell α

namespace PriceTable
variable {α : Type}

def empty : PriceTable α := ⟨.empty⟩

def insert (t : PriceTable α) (provider : Provider) (size : PackageSize) (price : α) :
    PriceTable α :=
  ⟨t.cells.insert ⟨provider, size⟩ price⟩

def price? (t : PriceTable α) (provider : Provider) (size : PackageSize) : Option α :=
  t.cells.get? ⟨provider, size⟩

theorem price?_insert (t : PriceTable α) (p q : Provider) (s u : PackageSize) (price : α) :
    (t.insert p s price).price? q u = if q = p ∧ u = s then some price else t.price? q u := by
  simp only [price?, insert, SortedMap.get?_insert, Std.LawfulEqOrd.compare_eq_iff_eq,
    PriceCell.mk.injEq]

/-- Tables that give every price alike are equal. -/
theorem ext_price? {t u : PriceTable α}
    (h : ∀ provider size, t.price? provider size = u.price? provider size) : t = u :=
  congrArg mk (SortedMap.ext_get? fun cell => h cell.provider cell.size)

/-- The current prices of a size, one for each provider that carries it. -/
def pricesOf (t : PriceTable α) (size : PackageSize) : List α :=
  (t.cells.toList.filter (·.1.size = size)).map Prod.snd

def leastPrice? [Amount α] (t : PriceTable α) (size : PackageSize) : Option α :=
  Amount.least? (t.pricesOf size)

/-- Those with a price for some size, in order. -/
def providers (t : PriceTable α) : List Provider := (t.cells.keys.map (·.provider)).eraseDups

end PriceTable

end ParcelPricing
