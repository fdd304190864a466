import ParcelPricing.Amount.OneDigit
import ParcelPricing.Pricing.Rule

/-! The five standard rules. None looks at whether a shipment was set aside. -/
namespace ParcelPricing.Rule
open Amount
variable {α : Type} [Amount α]

/-- Sets aside a shipment with an unreadable date, an unknown provider or an unknown size. -/
def ignoreUnreadable (id : Nat) : Rule α where
  id
  name := "ignore_incorrectly_parsed_facts"
  conditions := [.always]
  effect t l s :=
    if s.date.isValid && t.knowsProvider s.provider && t.knowsSize s.size then (s, l, t)
    else ({ s with ignored := true }, l, t)

/-- Smaller differences between prices count as none. -/
def smallestDifference : α := 2.220446049250313080847263336181640625e-16

/-- Small shipments cost what the cheapest provider asks: the proposal is the difference. -/
def lowestSmallPrice (id : Nat) : Rule α where
  id
  name := "small_shipment_lowest_price"
  conditions := [.hasSize .small]
  effect t l s :=
    match t.prices.price? s.provider s.size, t.prices.leastPrice? s.size with
    | some actual, some least =>
      let difference := actual - least
      let proposed := if smallestDifference < magnitude difference then some difference else none
      ({ s with proposed }, l, t)
    | _, _ => (s, l, t)

def largeLaPoste : List (Condition α) := [.hasProvider .laPoste, .hasSize .large]

def countLarge (id : Nat) : Rule α where
  id
  name := "large_la_poste_shipment"
  conditions := largeLaPoste
  effect t l s := (s, l.post s.period (.large ((l.entry s.period).large + 1)), t)

/-- The one large shipment of a month that is free. -/
def freeShipment : UInt32 := 3

/-- Comes after the count, which then includes the shipment itself. -/
def thirdLargeFree (id : Nat) : Rule α where
  id
  name := "third_shipment_free"
  conditions := largeLaPoste ++ [.largeCount freeShipment]
  effect t l s := ({ s with proposed := t.prices.price? s.provider s.size }, l, t)

/-- How far a rounded remainder may lie above the remainder. -/
def ceilingTolerance : α := 1e-9

/-- What the ceiling leaves: one significant digit of the headroom, or all of the headroom where
rounding would go above it. Never negative. -/
def remainder (ceiling granted : α) : α :=
  let headroom := ceiling - granted
  let rounded := oneDigit headroom
  greater (if headroom + ceilingTolerance < rounded then headroom else rounded) 0

/-- Charges `discount` less than the base price and books it. -/
def charge (l : Ledger α) (s : Shipment α) (base amount : α) (discount : Option α) :
    Shipment α × Ledger α :=
  ({ s with price := some (base - amount), discount },
    l.post s.period (.granted ((l.entry s.period).granted + amount)))

/-- Grants the whole proposal while the month stays below the ceiling, else what is left. -/
def applyPrice (id : Nat) : Rule α where
  id
  name := "apply_price"
  conditions := [.knownProvider]
  effect t l s :=
    match t.prices.price? s.provider s.size with
    | none => (s, l, t)
    | some base =>
      let granted := (l.entry s.period).granted
      let proposed := s.proposed.getD 0
      let (s, l) :=
        if proposed + granted < t.ceiling then charge l s base proposed s.proposed
        else
          let left := remainder t.ceiling granted
          charge l s base left (some left)
      (s, l, t)

/-- The standard rules in their order, with identities from `first` on. -/
def standard (first : Nat) : List (Rule α) :=
  [ignoreUnreadable first, lowestSmallPrice (first + 1), countLarge (first + 2),
    thirdLargeFree (first + 3), applyPrice (first + 4)]

end ParcelPricing.Rule
