import SchemaMocks.Toml.Basic

set_option autoImplicit false
set_option relaxedAutoImplicit false

/-!
Tables under construction. A document fills its tables piece by piece: through headers, and through
keys that lead through several tables. A table is opened once only, and a table that was opened in
one of these ways is not filled in the other one.
-/

namespace SchemaMocks.Toml

/-- How a table came to be. -/
inductive TableOrigin where
  /-- It is the document itself or has a header of its own. -/
  | header
  /-- It lies on the way that a header leads. -/
  | passed
  /-- It lies on the way that a key leads. -/
  | dotted
  deriving DecidableEq

/-- An entry of a table under construction. -/
inductive Node where
  | leaf (value : Value)
  | table (origin : TableOrigin) (entries : List (String × Node))
  | tables (items : List (List (String × Node)))

/-- The entries of a table under construction, in the order in which they came. -/
abbrev Draft := List (String × Node)

/-- A way through tables: the keys of those on the way, and the last key. -/
structure KeyPath where
  parents : List String
  last : String
  deriving DecidableEq

namespace Draft

def replace (draft : Draft) (key : String) (node : Node) : Draft :=
  draft.map fun (k, old) => if k = key then (k, node) else (k, old)

def erase (draft : Draft) (key : String) : Draft :=
  draft.filter fun (k, _) => k != key

/-- Changes the table to which some keys lead; tables that are missing on the way come to be. Of
tables in a row the last one is entered. A way that a key leads enters no table with a header. -/
def changeAt (way : TableOrigin) (change : TableOrigin → Draft → Option Draft) :
    List String → TableOrigin → Draft → Option Draft
  | [], origin, draft => change origin draft
  | key :: path, _, draft =>
    match Entries.get? key draft with
    | none => (changeAt way change path way []).map fun inner => draft ++ [(key, .table way inner)]
    | some (.leaf _) => none
    | some (.tables items) =>
      (changeAt way change path .header (items.getLast?.getD [])).map fun inner =>
        draft.replace key (.tables (items.dropLast ++ [inner]))
    | some (.table origin inner) =>
      if way = .dotted ∧ origin = .header then none
      else (changeAt way change path origin inner).map fun inner =>
        draft.replace key (.table origin inner)

def add? (key : String) (node : Node) (draft : Draft) : Option Draft :=
  match Entries.get? key draft with
  | none => some (draft ++ [(key, node)])
  | some _ => none

/-- Adds a value. Beyond the table itself, only tables that keys opened are filled. -/
def put? (draft : Draft) (pair : KeyPath × Value) : Option Draft :=
  changeAt .dotted (fun origin inner =>
      if !pair.1.parents.isEmpty && origin != .dotted then none
      else add? pair.1.last (.leaf pair.2) inner)
    pair.1.parents .header draft

def fill? (draft : Draft) (pairs : List (KeyPath × Value)) : Option Draft :=
  pairs.foldlM put? draft

/-- Opens the table of a header and fills it. Only a table that lies on the way of earlier headers
may be there already. -/
def section? (draft : Draft) (path : KeyPath) (pairs : List (KeyPath × Value)) : Option Draft :=
  changeAt .passed (fun _ parent =>
      match Entries.get? path.last parent with
      | none => (fill? [] pairs).map fun table => parent ++ [(path.last, .table .header table)]
      | some (.table .passed table) => (fill? table pairs).map fun table =>
          parent.erase path.last ++ [(path.last, .table .header table)]
      | some _ => none)
    path.parents .header draft

/-- Adds a table to those in a row under a header and fills it. -/
def row? (draft : Draft) (path : KeyPath) (pairs : List (KeyPath × Value)) : Option Draft :=
  changeAt .passed (fun _ parent =>
      match Entries.get? path.last parent with
      | none => (fill? [] pairs).map fun table => parent ++ [(path.last, .tables [table])]
      | some (.tables items) => (fill? [] pairs).map fun table =>
          parent.replace path.last (.tables (items ++ [table]))
      | some _ => none)
    path.parents .header draft

end Draft

mutual

def Node.value? : Node → Option Value
  | .leaf value => some value
  | .table _ entries => settledTable? entries
  | .tables items => (settledTables? items).map .array

/-- The value of a table. One whose first key is the reserved one stands for a date. -/
def settledTable? : List (String × Node) → Option Value
  | [] => some (.table [])
  | (key, node) :: rest =>
    if key = datetimeKey then
      match node with
      | .leaf (.string text) => (Datetime.ofText? text).map .datetime
      | _ => none
    else do
      let value ← node.value?
      let entries ← settled? rest
      some (.table (Entries.ofList ((key, value) :: entries)))

def settled? : List (String × Node) → Option (List (String × Value))
  | [] => some []
  | (key, node) :: rest => do
    let value ← node.value?
    let entries ← settled? rest
    some ((key, value) :: entries)

def settledTables? : List (List (String × Node)) → Option (List Value)
  | [] => some []
  | entries :: rest => do
    let value ← settledTable? entries
    let values ← settledTables? rest
    some (value :: values)

end

end SchemaMocks.Toml
