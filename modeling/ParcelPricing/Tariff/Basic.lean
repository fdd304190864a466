import ParcelPricing.Pricing.Terms

/-! What the settings say about prices, all by codes. -/
namespace ParcelPricing

structure PriceLine (α : Type) where
  provider : String
  size : String
  price : α
deriving DecidableEq

structure Tariff (α : Type) where
  ceiling : α
  providers : List String
  sizes : List String
  prices : List (PriceLine α)
deriving DecidableEq

namespace Tariff
variable {α : Type}

/-- The first price that is listed for a provider and a size. -/
def priceOf? (t : Tariff α) (provider size : String) : Option α :=
  (t.prices.find? fun line => line.provider = provider && line.size = size).map (·.price)

/-- The table of the listed prices. A price listed again replaces the one before it. -/
def priceTable (t : Tariff α) : PriceTable α :=
  t.prices.foldl (fun table line => table.insert ⟨line.provider⟩ (.ofCode line.size) line.price)
    .empty

def terms (t : Tariff α) : Terms α where
  prices := t.priceTable
  ceiling := t.ceiling
  providers := .ofKeys (t.providers.map Provider.mk)
  sizes := .ofKeys (t.sizes.map PackageSize.ofCode)

/-- What holds when the settings say nothing. -/
def standard [Amount α] : Tariff α where
  ceiling := 10.0
  providers := ["LP", "MR"]
  sizes := ["S", "M", "L"]
  prices :=
    [⟨"LP", "S", 1.5⟩, ⟨"LP", "M", 4.9⟩, ⟨"LP", "L", 6.9⟩,
      ⟨"MR", "S", 2.0⟩, ⟨"MR", "M", 3.0⟩, ⟨"MR", "L", 4.0⟩]

end Tariff

end ParcelPricing
