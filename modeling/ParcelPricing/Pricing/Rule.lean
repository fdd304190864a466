import ParcelPricing.Pricing.Condition

/-! Rules, recognised by their identity and not by what they say. -/
namespace ParcelPricing

/-- What a rule does to a shipment, the books and the terms. -/
abbrev Effect (α : Type) := Terms α → Ledger α → Shipment α → Shipment α × Ledger α × Terms α

structure Rule (α : Type) where
  id : Nat
  name : String
  conditions : List (Condition α)
  effect : Effect α

namespace Rule
variable {α : Type} [Amount α]

def fires (r : Rule α) (t : Terms α) (l : Ledger α) (s : Shipment α) : Bool :=
  r.conditions.all (·.holds t l s)

def apply (t : Terms α) (r : Rule α) (l : Ledger α) (s : Shipment α) :
    Shipment α × Ledger α × Terms α :=
  if r.fires t l s then r.effect t l s else (s, l, t)

end Rule

end ParcelPricing
