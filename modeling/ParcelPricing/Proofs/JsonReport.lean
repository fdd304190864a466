import Mathlib.Data.List.Nodup
import ParcelPricing.Proofs.JsonAmount
import ParcelPricing.Proofs.JsonReading

/-! The report in JSON is read as the shipments and books it reports on. -/
namespace ParcelPricing

namespace Json

/-- The fields of an object; what is no object has none. -/
def fields : Json → List (List Char × Json)
  | object fields => fields
  | _ => []

/-- The keys of an object, in order. -/
def keys (document : Json) : List String := document.fields.map fun field => .ofList field.1

/-- Where no key comes twice, each field is found by its key. -/
theorem field?_of_mem {document value : Json} {key : String} (hnodup : document.keys.Nodup)
    (h : (key.toList, value) ∈ document.fields) : document.field? key = some value := by
  cases document with
  | object fields =>
    have hfound : (fields.reverse.find? (·.1 = key.toList)).isSome :=
      List.find?_isSome.2 ⟨_, List.mem_reverse.2 h, by simp⟩
    obtain ⟨field, hfield⟩ := Option.isSome_iff_exists.1 hfound
    have hmem := List.mem_reverse.1 (List.mem_of_find?_eq_some hfield)
    have hkey : field.1 = key.toList := by simpa using List.find?_some hfield
    have heq := List.inj_on_of_nodup_map hnodup hmem h (by rw [hkey])
    rw [field?, hfield, heq]
    rfl
  | _ => cases h

end Json

namespace Report
open Text Decimal

/-- An amount that is there and finite stands as a number that reads back to it, any other as
null. -/
structure ShowsAmount (amount : Option Float) (document : Json) : Prop where
  null : document = .null ↔ ∀ x ∈ amount, x.isFinite = false
  number : ∀ x ∈ amount, x.isFinite = true →
    document = .number (jsonFormat.chars x) ∧ readDouble? (jsonFormat.chars x) = some x

/-- An object that stands for a shipment. -/
structure ShowsShipment (s : Shipment Float) (object : Json) : Prop where
  keys : object.keys = ["date", "package_size", "shipping_provider"] ++
    (if s.proposed.isSome then ["proposed_discount"] else []) ++ ["price", "discount"] ++
      if s.ignored then ["ignore"] else []
  date : object.field? "date" = some (.string s.date.text.toList)
  size : object.field? "package_size" = some (.string s.size.code.toList)
  provider : object.field? "shipping_provider" = some (.string s.provider.code.toList)
  proposed : ∀ x ∈ s.proposed, ∃ document,
    object.field? "proposed_discount" = some document ∧ ShowsAmount (some x) document
  price : ∃ document, object.field? "price" = some document ∧ ShowsAmount s.price document
  discount : ∃ document, object.field? "discount" = some document ∧ ShowsAmount s.discount document
  ignored : s.ignored = true → object.field? "ignore" = some (.bool true)

/-- An object that stands for the books of a month. -/
structure ShowsMonth (row : Period × MonthEntry Float) (object : Json) : Prop where
  keys : object.keys = ["period", "large_shipment_count", "accumulated_discount"]
  period : object.field? "period" = some (.string row.1.chars)
  count : ∃ digits, object.field? "large_shipment_count" = some (.number digits) ∧
    Json.IsDigits digits ∧ value digits = row.2.large.toNat
  granted : ∃ document, object.field? "accumulated_discount" = some document ∧
    ShowsAmount (some row.2.granted) document

theorem showsAmount_jsonOptional (amount : Option Float) :
    ShowsAmount amount (jsonOptional amount) := by
  cases amount with
  | none => exact ⟨by simp [jsonOptional], by simp⟩
  | some x =>
    by_cases hx : x.isFinite = true
    · have hamount : jsonOptional (some x) = .number (jsonFormat.chars x) :=
        if_pos ((Double.isFinite_iff x).2 hx)
      have hread := readDouble?_chars (f := jsonFormat) (by decide) hx
      rw [hamount]
      exact ⟨by simp [hx], by simp [hread]⟩
    · have hamount : jsonOptional (some x) = .null :=
        if_neg fun h => hx ((Double.isFinite_iff x).1 h)
      rw [hamount]
      exact ⟨by simpa using hx, by simp [hx]⟩

theorem ShowsAmount.eq_number {x : Float} {document : Json} {text : String}
    (h : ShowsAmount (some x) document) (hx : x.isFinite = true)
    (htext : jsonFormat.chars x = text.toList) : document = .number text.toList :=
  htext ▸ (h.number x rfl hx).1

theorem keys_shipmentJson (s : Shipment Float) : (shipmentJson s).keys =
    ["date", "package_size", "shipping_provider"] ++
      (if s.proposed.isSome then ["proposed_discount"] else []) ++ ["price", "discount"] ++
        if s.ignored then ["ignore"] else [] := by
  cases hproposed : s.proposed <;> cases hignored : s.ignored <;>
    simp [shipmentJson, Json.keys, Json.fields, hproposed, hignored]

theorem nodup_keys_shipmentJson (s : Shipment Float) : (shipmentJson s).keys.Nodup := by
  rw [keys_shipmentJson]
  cases s.proposed.isSome <;> cases s.ignored <;> decide

theorem showsShipment_shipmentJson (s : Shipment Float) : ShowsShipment s (shipmentJson s) := by
  have hnodup := nodup_keys_shipmentJson s
  have hnames : ∀ field ∈ [("date".toList, .string s.date.text.toList),
      ("package_size".toList, .string s.size.code.toList),
      ("shipping_provider".toList, .string s.provider.code.toList)],
      field ∈ (shipmentJson s).fields := fun field h =>
    List.mem_append_left _ (List.mem_append_left _ (List.mem_append_left _ h))
  have hproposed : ∀ x ∈ s.proposed,
      ("proposed_discount".toList, jsonAmount x) ∈ (shipmentJson s).fields := fun x hx =>
    List.mem_append_left _ (List.mem_append_left _ (List.mem_append_right _
      (Option.mem_toList.2 (Option.mem_map_of_mem _ hx))))
  have hamounts : ∀ field ∈ [("price".toList, jsonOptional s.price),
      ("discount".toList, jsonOptional s.discount)], field ∈ (shipmentJson s).fields :=
    fun field h => List.mem_append_left _ (List.mem_append_right _ h)
  have hignored : s.ignored = true →
      ("ignore".toList, .bool true) ∈ (shipmentJson s).fields := fun h =>
    List.mem_append_right _ (by simp [h])
  simp only [List.forall_mem_cons] at hnames hamounts
  obtain ⟨hdate, hsize, hprovider, -⟩ := hnames
  obtain ⟨hprice, hdiscount, -⟩ := hamounts
  exact {
    keys := keys_shipmentJson s
    date := Json.field?_of_mem hnodup hdate
    size := Json.field?_of_mem hnodup hsize
    provider := Json.field?_of_mem hnodup hprovider
    proposed := fun x hx =>
      ⟨_, Json.field?_of_mem hnodup (hproposed x hx), showsAmount_jsonOptional (some x)⟩
    price := ⟨_, Json.field?_of_mem hnodup hprice, showsAmount_jsonOptional s.price⟩
    discount := ⟨_, Json.field?_of_mem hnodup hdiscount, showsAmount_jsonOptional s.discount⟩
    ignored := fun h => Json.field?_of_mem hnodup (hignored h) }

theorem showsMonth_entryJson (row : Period × MonthEntry Float) :
    ShowsMonth row (entryJson row) := by
  have hkeys :
      (entryJson row).keys = ["period", "large_shipment_count", "accumulated_discount"] := by
    simp [entryJson, Json.keys, Json.fields]
  have hnodup : (entryJson row).keys.Nodup := hkeys ▸ by decide
  exact {
    keys := hkeys
    period := Json.field?_of_mem hnodup (by simp [entryJson, Json.fields])
    count := ⟨decimal row.2.large.toNat, Json.field?_of_mem hnodup (by simp [entryJson, Json.fields]),
      Json.isDigits_decimal _, Nat.ofDigitChars_ten_toDigits⟩
    granted := ⟨jsonAmount row.2.granted,
      Json.field?_of_mem hnodup (by simp [entryJson, Json.fields]),
      showsAmount_jsonOptional (some row.2.granted)⟩ }

theorem proper_jsonAmount (x : Float) : (jsonAmount x).Proper := by
  unfold jsonAmount
  split
  · rename_i hfinite
    refine .number (NumberFormat.isNumber_chars ?_ ((Double.isFinite_iff x).1 hfinite))
    exact .digits ⟨List.cons_ne_nil _ _, List.forall_mem_singleton.2 rfl⟩
  · exact .null

theorem proper_jsonOptional (amount : Option Float) : (jsonOptional amount).Proper := by
  cases amount with
  | none => exact .null
  | some x => exact proper_jsonAmount x

theorem proper_shipmentJson (s : Shipment Float) : (shipmentJson s).Proper := by
  refine .object (List.forall_mem_append.2 ⟨List.forall_mem_append.2
    ⟨List.forall_mem_append.2 ⟨?_, ?_⟩, ?_⟩, ?_⟩)
  · simp [Json.Proper.string]
  · cases s.proposed with
    | none => simp
    | some x => simpa using proper_jsonAmount x
  · simp [proper_jsonOptional]
  · cases s.ignored with
    | true => simp [Json.Proper.bool]
    | false => simp

theorem proper_entryJson (row : Period × MonthEntry Float) : (entryJson row).Proper := by
  have hcount := Json.Proper.number (Json.isNumber_decimal row.2.large.toNat)
  refine .object ?_
  simp [Json.Proper.string, hcount, proper_jsonAmount]

theorem proper_shipmentsJson (shipments : List (Shipment Float)) :
    (shipmentsJson shipments).Proper :=
  .array (List.forall_mem_map.2 fun s _ => proper_shipmentJson s)

theorem proper_ledgerJson (l : Ledger Float) : (ledgerJson l).Proper :=
  .array (List.forall_mem_map.2 fun row _ => proper_entryJson row)

/-- The report is one document and a line feed. It is read as an object for each shipment, with
those of the months where they are asked for, in order. -/
theorem json_faithful (shipments : List (Shipment Float)) (summary : Option (Ledger Float)) :
    ∃ body document, render shipments summary .json = body ++ ['\n'] ∧
      Json.Spells document body ∧ Json.read? body = some document ∧
      Json.read? (render shipments summary .json) = some document ∧
      match summary with
      | none => ∃ objects, document = .array objects ∧
          List.Forall₂ ShowsShipment shipments objects
      | some l => ∃ objects rows, document = .object
            [("facts".toList, .array objects), ("summary".toList, .array rows)] ∧
          List.Forall₂ ShowsShipment shipments objects ∧
          List.Forall₂ ShowsMonth l.toList rows := by
  have hshipments : List.Forall₂ ShowsShipment shipments (shipments.map shipmentJson) :=
    List.forall₂_map_right_iff.2 (List.forall₂_same.2 fun s _ => showsShipment_shipmentJson s)
  cases summary with
  | none =>
    have hproper := proper_shipmentsJson shipments
    exact ⟨_, _, rfl, Json.spells_pretty hproper 0, Json.read?_pretty hproper 0,
      Json.read?_print hproper, _, rfl, hshipments⟩
  | some l =>
    have hrows : List.Forall₂ ShowsMonth l.toList (l.toList.map entryJson) :=
      List.forall₂_map_right_iff.2 (List.forall₂_same.2 fun row _ => showsMonth_entryJson row)
    have hproper : (Json.object [("facts".toList, shipmentsJson shipments),
        ("summary".toList, ledgerJson l)]).Proper := by
      refine .object ?_
      simp [proper_shipmentsJson, proper_ledgerJson]
    exact ⟨_, _, rfl, Json.spells_pretty hproper 0, Json.read?_pretty hproper 0,
      Json.read?_print hproper, _, _, rfl, hshipments, hrows⟩

/-- A sum that is not quite 0.3, the least double above zero, an infinity and a large number. -/
theorem json_faithful_of_awkward_amounts :
    let parcel (price discount : Float) : Shipment Float :=
      { Shipment.unpriced (.read "2015-02-01") .small .laPoste with price, discount }
    let books : Ledger Float := Ledger.empty.post (.month 2015 2) (.granted 1e21)
    ∃ first second row, Json.read? (render [parcel (0.1 + 0.2) infinity, parcel 5e-324 (-0.0)]
        (some books) .json) = some (.object [("facts".toList, .array [first, second]),
          ("summary".toList, .array [row])]) ∧
      first.field? "price" = some (.number "0.30000000000000004".toList) ∧
      first.field? "discount" = some .null ∧
      second.field? "price" = some (.number "5e-324".toList) ∧
      second.field? "discount" = some (.number "-0.0".toList) ∧
      row.field? "accumulated_discount" = some (.number "1e+21".toList) := by
  intro parcel books
  obtain ⟨body, document, -, -, -, hread, objects, rows, rfl, hobjects, hrows⟩ :=
    json_faithful [parcel (0.1 + 0.2) infinity, parcel 5e-324 (-0.0)] (some books)
  have hbooks : books.toList = [(.month 2015 2, ⟨0, 1e21⟩)] := by rfl
  rw [hbooks] at hrows
  obtain _ | @⟨_, first, _, _, hfirst, _ | @⟨_, second, _, _, hsecond, _ | _⟩⟩ := hobjects
  obtain _ | @⟨_, row, _, _, hrow, _ | _⟩ := hrows
  refine ⟨first, second, row, hread, ?_⟩
  obtain ⟨_, hsum, hshowsSum⟩ := hfirst.price
  obtain ⟨_, hinfinite, hshowsInfinite⟩ := hfirst.discount
  obtain ⟨_, hleast, hshowsLeast⟩ := hsecond.price
  obtain ⟨_, hzero, hshowsZero⟩ := hsecond.discount
  obtain ⟨_, hlarge, hshowsLarge⟩ := hrow.granted
  rw [hsum, hinfinite, hleast, hzero, hlarge]
  refine ⟨congrArg some ?_, congrArg some ?_, congrArg some ?_, congrArg some ?_, congrArg some ?_⟩
  · exact hshowsSum.eq_number (by decide +kernel) (by decide +kernel)
  · exact hshowsInfinite.null.2 (by rintro _ ⟨⟩; decide +kernel)
  · exact hshowsLeast.eq_number (by decide +kernel) (by decide +kernel)
  · exact hshowsZero.eq_number (by decide +kernel) (by decide +kernel)
  · exact hshowsLarge.eq_number (by decide +kernel) (by decide +kernel)

end Report

end ParcelPricing
