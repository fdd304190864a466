/-! Settings before their meaning is known. Tables merge key by key. -/
namespace ParcelPricing

inductive Setting where
  /-- an item of a list that only later items made room for -/
  | absent
  | text (value : String)
  | truth (value : Bool)
  | whole (value : Int)
  | decimal (value : Float)
  | list (items : List Setting)
  | table (fields : List (String × Setting))

abbrev Fields := List (String × Setting)

namespace Fields

/-- Sets the value of a key in its place, or at the end. -/
def put (key : String) (value : Setting) : Fields → Fields
  | [] => [(key, value)]
  | (k, v) :: rest => if k = key then (k, value) :: rest else (k, v) :: put key value rest

def get? (fields : Fields) (key : String) : Option Setting := fields.lookup key

/-- Changes the value of a key, which need not be there yet. -/
def change (key : String) (f : Setting → Setting) (fields : Fields) : Fields :=
  fields.put key (f ((fields.get? key).getD .absent))

end Fields

namespace Setting

/-- The fields of a table; what is no table has none. -/
def fields : Setting → Fields
  | table fields => fields
  | _ => []

/-- The fields of a table only. -/
def fields? : Setting → Option Fields
  | table fields => some fields
  | _ => none

/-- The items of a list; what is no list has none. -/
def items : Setting → List Setting
  | list items => items
  | _ => []

mutual

/-- A setting laid over an earlier one for the same key. -/
def overlay (base : Setting) : Setting → Setting
  | table incoming => table (overlayFields base.fields incoming)
  | other => other

/-- Fields laid over those of a table, each in its turn. -/
def overlayFields (base : Fields) : Fields → Fields
  | [] => base
  | (key, value) :: rest =>
    overlayFields (base.put key (overlay ((base.get? key).getD absent) value)) rest

end

end Setting

end ParcelPricing
