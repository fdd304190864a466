import ParcelPricing.Shipment.Provider
import ParcelPricing.Shipment.ShipDate
import ParcelPricing.Shipment.Size

/-! Shipments, and their reading from text, which never fails. -/
namespace ParcelPricing
open Text

structure Shipment (α : Type) where
  date : ShipDate
  size : PackageSize
  provider : Provider
  /-- what the rules would take off, before the monthly ceiling -/
  proposed : Option α
  price : Option α
  discount : Option α
  ignored : Bool

namespace Shipment
variable {α : Type}

/-- A shipment that no rule has seen. -/
def unpriced (date : ShipDate) (size : PackageSize) (provider : Provider) : Shipment α :=
  ⟨date, size, provider, none, none, none, false⟩

def period (s : Shipment α) : Period := s.date.period

def ofTokens (tokens : List (List Char)) : Shipment α :=
  let field (i : Nat) : String := .ofList (tokens.getD i [])
  unpriced (.read (field 0)) (.ofCode (field 1)) ⟨field 2⟩

def ofLine (line : List Char) : Shipment α := ofTokens (tokens line)

def readAll (text : List Char) : List (Shipment α) :=
  (((lines text).map tokens).filter (· ≠ [])).map ofTokens

end Shipment

end ParcelPricing
