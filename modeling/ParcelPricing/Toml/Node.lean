import ParcelPricing.Settings.Setting

/-! Tables of TOML. How a table came to be decides who may add to it. -/
namespace ParcelPricing.Toml

inductive Origin where
  /-- named by a header of its own -/
  | header
  /-- named only inside a longer header -/
  | parent
  /-- named by a key with points -/
  | dotted
deriving DecidableEq

inductive Node where
  | leaf (value : Setting)
  | table (origin : Origin) (fields : List (String × Node))
  | series (tables : List (List (String × Node)))

abbrev Nodes := List (String × Node)

mutual

def Node.close : Node → Setting
  | .leaf value => value
  | .table _ fields => .table (closeFields fields)
  | .series tables => .list (closeTables tables)

def closeFields : List (String × Node) → List (String × Setting)
  | [] => []
  | (key, node) :: rest => (key, node.close) :: closeFields rest

def closeTables : List (List (String × Node)) → List Setting
  | [] => []
  | fields :: rest => .table (closeFields fields) :: closeTables rest

end

/-- Replaces the node of a key, or adds one at the end; `f` sees what is there and may refuse. -/
def update (key : String) (f : Option Node → Option Node) : Nodes → Option Nodes
  | [] => (f none).map fun node => [(key, node)]
  | (k, node) :: rest =>
    if k = key then (f (some node)).map fun node => (k, node) :: rest
    else (update key f rest).map ((k, node) :: ·)

/-- Replaces the last of several tables. -/
def updateLast (f : Nodes → Option Nodes) : List Nodes → Option (List Nodes)
  | [] => none
  | [fields] => (f fields).map ([·])
  | fields :: rest => (updateLast f rest).map (fields :: ·)

/-- Changes the table at the end of a path, making the tables on the way. A path inside a key may
not enter a table that has a header. -/
def descend (inKey : Bool) (f : Nodes → Option Nodes) : List String → Nodes → Option Nodes
  | [], fields => f fields
  | key :: path, fields =>
    fields |> update key fun
      | none => (descend inKey f path []).map (.table (if inKey then .dotted else .parent))
      | some (.table origin sub) =>
        if inKey ∧ origin = .header then none
        else (descend inKey f path sub).map (.table (if inKey then .dotted else origin))
      | some (.series tables) =>
        if inKey ∧ path = [] then none else (updateLast (descend inKey f path) tables).map .series
      | some (.leaf _) => none

/-- Adds a value under a key, which must be new. -/
def addValue (path : List String) (value : Setting) (fields : Nodes) : Option Nodes := do
  let last ← path.getLast?
  descend true (update last fun
    | none => some (.leaf value)
    | some _ => none) path.dropLast fields

/-- Opens the table of a header. -/
def openTable (path : List String) (fields : Nodes) : Option Nodes := do
  let last ← path.getLast?
  descend false (update last fun
    | none => some (.table .header [])
    | some (.table .parent sub) => some (.table .header sub)
    | some _ => none) path.dropLast fields

/-- Opens one more table of a series. -/
def openSeries (path : List String) (fields : Nodes) : Option Nodes := do
  let last ← path.getLast?
  descend false (update last fun
    | none => some (.series [[]])
    | some (.series tables) => some (.series (tables ++ [[]]))
    | some _ => none) path.dropLast fields

end ParcelPricing.Toml
