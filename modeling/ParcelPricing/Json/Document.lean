/-! JSON documents. A number is kept as the text it is written with. -/
namespace ParcelPricing

inductive Json where
  | null
  | bool (value : Bool)
  | number (text : List Char)
  | string (value : List Char)
  | array (items : List Json)
  | object (fields : List (List Char × Json))

namespace Json

def field? (key : String) : Json → Option Json
  | object fields => (fields.reverse.find? (·.1 = key.toList)).map Prod.snd
  | _ => none

end Json

end ParcelPricing
