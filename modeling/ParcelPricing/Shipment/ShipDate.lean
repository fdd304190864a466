import ParcelPricing.Calendar.DateText
import ParcelPricing.Calendar.Timestamp
import ParcelPricing.Shipment.Period

namespace ParcelPricing

inductive ShipDate where
  | valid (date : CalendarDate)
  | unreadable (text : String)
deriving DecidableEq

namespace ShipDate

def read (text : String) : ShipDate :=
  match CalendarDate.read? text.toList with
  | some date => valid date
  | none =>
    match Timestamp.read? text.toList with
    | some timestamp => valid timestamp.utcDate
    | none => unreadable text

def text : ShipDate → String
  | valid date => .ofList date.chars
  | unreadable text => text

def isValid : ShipDate → Bool
  | valid _ => true
  | unreadable _ => false

def period : ShipDate → Period
  | valid date => .month date.year date.month
  | unreadable _ => .undated

end ShipDate

end ParcelPricing
