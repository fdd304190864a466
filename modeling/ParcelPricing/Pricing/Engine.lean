import ParcelPricing.Pricing.Rule

/-! Running a list of rules, each shipment on what the ones before it left. -/
namespace ParcelPricing

structure Engine (α : Type) where
  rules : List (Rule α)
  terms : Terms α
  ledger : Ledger α

/-- One shipment through a list of rules. -/
def applyRules {α : Type} [Amount α] (t : Terms α) (rules : List (Rule α)) (l : Ledger α)
    (s : Shipment α) : Shipment α × Ledger α × Terms α :=
  rules.foldl (fun (s, l, t) r => r.apply t l s) (s, l, t)

def runRules {α : Type} [Amount α] (t : Terms α) (rules : List (Rule α)) (l : Ledger α) :
    List (Shipment α) → List (Shipment α) × Ledger α × Terms α
  | [] => ([], l, t)
  | s :: rest =>
    let (s, l, t) := applyRules t rules l s
    let (rest, l, t) := runRules t rules l rest
    (s :: rest, l, t)

namespace Engine
variable {α : Type}

def add (e : Engine α) (r : Rule α) : Engine α := { e with rules := e.rules ++ [r] }

/-- Removes the first rule of this identity, and tells whether there was one. -/
def remove (e : Engine α) (r : Rule α) : Bool × Engine α :=
  (e.rules.any (·.id == r.id), { e with rules := e.rules.eraseP (·.id == r.id) })

variable [Amount α]

def evaluate (e : Engine α) (s : Shipment α) : Shipment α × Engine α :=
  let (s, ledger, terms) := applyRules e.terms e.rules e.ledger s
  (s, { e with ledger, terms })

def run (e : Engine α) (shipments : List (Shipment α)) : List (Shipment α) × Engine α :=
  let (out, ledger, terms) := runRules e.terms e.rules e.ledger shipments
  (out, { e with ledger, terms })

end Engine

end ParcelPricing
