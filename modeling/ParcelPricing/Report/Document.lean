import ParcelPricing.Json.Printer
import ParcelPricing.Pricing.Ledger
import ParcelPricing.Report.AmountText
import ParcelPricing.Report.Fault
import ParcelPricing.Shipment.Record

/-! The report of a run, in lines or as one JSON document. -/
namespace ParcelPricing.Report
open Decimal Text

inductive Format where
  | text
  | json
deriving DecidableEq

/-- Names count in either case. -/
def Format.ofName (name : String) : Except RunFault Format :=
  let lowered := String.ofList (name.toList.map Char.toLower)
  if lowered = "text" then .ok text
  else if lowered = "json" then .ok json
  else .error (.parse ("未知的输出格式 '" ++ lowered ++ "'，可选 text / json"))

def optionalText : Option Float → List Char
  | some amount => amountText amount
  | none => ['-']

def fields (s : Shipment Float) : List (List Char) :=
  [s.date.text.toList, s.size.code.toList, s.provider.code.toList]

/-- A shipment that was set aside shows the fields it came with, as far as there are any. -/
def line (s : Shipment Float) : List Char :=
  let parts :=
    if s.ignored then (fields s).filter (· ≠ []) ++ ["Ignored".toList]
    else fields s ++ [optionalText s.price, optionalText s.discount]
  List.intercalate [' '] parts

def textLines (lines : List (List Char)) : List Char := lines.flatMap (· ++ ['\n'])

/-- A point always, and an exponent for what is below `10 ^ -5` or from `10 ^ 16` on. -/
def jsonFormat : NumberFormat where
  isPlain e := -5 ≤ e && e < 16
  wholeTail := ['.', '0']
  tieUp := false

def jsonAmount (x : Float) : Json :=
  if Amount.IsFinite x then .number (jsonFormat.chars x) else .null

def jsonOptional : Option Float → Json
  | some amount => jsonAmount amount
  | none => .null

/-- A proposal is listed if there is one, and the mark of a shipment set aside only where it is. -/
def shipmentJson (s : Shipment Float) : Json :=
  .object <|
    [("date".toList, .string s.date.text.toList),
      ("package_size".toList, .string s.size.code.toList),
      ("shipping_provider".toList, .string s.provider.code.toList)] ++
    (s.proposed.map fun amount => ("proposed_discount".toList, jsonAmount amount)).toList ++
    [("price".toList, jsonOptional s.price), ("discount".toList, jsonOptional s.discount)] ++
    if s.ignored then [("ignore".toList, .bool true)] else []

def entryJson (row : Period × MonthEntry Float) : Json :=
  .object
    [("period".toList, .string row.1.chars),
      ("large_shipment_count".toList, .number (decimal row.2.large.toNat)),
      ("accumulated_discount".toList, jsonAmount row.2.granted)]

def entryLine (row : Period × MonthEntry Float) : List Char :=
  row.1.chars ++ " large_la_poste=".toList ++ decimal row.2.large.toNat ++
    " discount=".toList ++ amountText row.2.granted

def shipmentsJson (shipments : List (Shipment Float)) : Json := .array (shipments.map shipmentJson)

def ledgerJson (l : Ledger Float) : Json := .array (l.toList.map entryJson)

/-- The books alone. -/
def renderLedger (l : Ledger Float) : Format → List Char
  | .text => textLines (l.toList.map entryLine)
  | .json => (ledgerJson l).print

def renderShipments (shipments : List (Shipment Float)) : Format → List Char
  | .text => textLines (shipments.map line)
  | .json => (shipmentsJson shipments).print

def render (shipments : List (Shipment Float)) (summary : Option (Ledger Float)) (f : Format) :
    List Char :=
  match summary, f with
  | none, f => renderShipments shipments f
  | some l, .text => renderShipments shipments .text ++ renderLedger l .text
  | some l, .json =>
    (Json.object
      [("facts".toList, shipmentsJson shipments), ("summary".toList, ledgerJson l)]).print

end ParcelPricing.Report
