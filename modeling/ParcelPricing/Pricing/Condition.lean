import ParcelPricing.Pricing.Ledger
import ParcelPricing.Pricing.Terms
import ParcelPricing.Shipment.Record

/-! Conditions on a shipment. They read the terms and the books and change neither. -/
namespace ParcelPricing

/-- A question about a shipment. -/
abbrev Predicate (α : Type) := Terms α → Ledger α → Shipment α → Bool

inductive Condition (α : Type) where
  | always
  | hasSize (size : PackageSize)
  | hasProvider (provider : Provider)
  /-- the month's count of large shipments is exactly this -/
  | largeCount (count : UInt32)
  /-- the month's granted discount is below this -/
  | grantedBelow (limit : α)
  | knownProvider
  | custom (name : String) (predicate : Predicate α)

namespace Condition
variable {α : Type} [Amount α]

def holds (t : Terms α) (l : Ledger α) (s : Shipment α) : Condition α → Bool
  | always => true
  | hasSize size => s.size = size
  | hasProvider provider => s.provider = provider
  | largeCount count => (l.entry s.period).large = count
  | grantedBelow limit => (l.entry s.period).granted < limit
  | knownProvider => t.knowsProvider s.provider
  | custom _ predicate => predicate t l s

end Condition

end ParcelPricing
