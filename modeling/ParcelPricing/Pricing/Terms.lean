import ParcelPricing.Pricing.PriceTable

namespace ParcelPricing

structure Terms (α : Type) where
  prices : PriceTable α
  /-- the discount that a month may reach -/
  ceiling : α
  providers : SortedSet Provider
  sizes : SortedSet PackageSize

namespace Terms
variable {α : Type}

def knowsProvider (t : Terms α) (p : Provider) : Bool := t.providers.contains p

def knowsSize (t : Terms α) (s : PackageSize) : Bool := t.sizes.contains s

end Terms

end ParcelPricing
