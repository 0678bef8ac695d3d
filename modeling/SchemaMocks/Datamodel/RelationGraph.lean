import SchemaMocks.Datamodel.Basic

set_option autoImplicit false
set_option relaxedAutoImplicit false

/-!
The relation graph of a document: its nodes are the model names, and an edge leads from a model to
every known model that one of its relation fields points at. The nodes are sorted so that the source
of every edge comes before its target: for every node the edges from nodes not yet placed are
counted, and of the nodes without such edges the least one is placed next. Nodes that keep a count
lie on a cycle or behind one.
-/

namespace SchemaMocks

/-- A graph on names: every node with its targets, both in ascending order. -/
structure RelationGraph where
  targets : Dictionary (List String)

namespace RelationGraph

def targetNames (doc : Document) (name : String) : List String :=
  let fields := (doc.models.filter (·.name == name)).flatMap Model.relationFields
  sortedDistinct ((fields.map (·.typeName)).filter fun target => (doc.model? target).isSome)

def ofDocument (doc : Document) : RelationGraph :=
  ⟨Dictionary.ofList (doc.models.map fun m => (m.name, targetNames doc m.name))⟩

def nodes (g : RelationGraph) : List String :=
  g.targets.keys

def targetsOf (g : RelationGraph) (node : String) : List String :=
  (g.targets.get? node).getD []

def edgeCount (g : RelationGraph) : Nat :=
  g.targets.entries.foldl (fun n (_, targets) => n + targets.length) 0

def hasEdge (g : RelationGraph) (source target : String) : Bool :=
  (g.targetsOf source).contains target

def indegrees (g : RelationGraph) : Dictionary Nat :=
  (g.targets.entries.flatMap (·.2)).foldl (fun d target => d.modify target (· + 1))
    (g.targets.mapValues fun _ => 0)

/-- A sorting of the nodes under way. -/
structure Sorting where
  /-- The nodes placed so far. -/
  order : List String
  /-- The number of edges that lead to each node from nodes not yet placed. -/
  pending : Dictionary Nat
  /-- The nodes that can be placed next. -/
  ready : Dictionary Unit

namespace Sorting

def start (g : RelationGraph) : Sorting :=
  let free := g.indegrees.entries.filter fun (_, count) => count == 0
  ⟨[], g.indegrees, Dictionary.ofList (free.map fun (node, _) => (node, ()))⟩

/-- Takes one edge to a node away; a node that has no edges left is ready. -/
def release (s : Sorting) (target : String) : Sorting :=
  match s.pending.get? target with
  | none => s
  | some count =>
    let pending := s.pending.insert target (count - 1)
    if count - 1 = 0 then { s with pending, ready := s.ready.insert target () }
    else { s with pending }

def next? (g : RelationGraph) (s : Sorting) : Option Sorting :=
  s.ready.takeFirst?.map fun (node, ready) =>
    (g.targetsOf node).foldl release ⟨s.order ++ [node], s.pending, ready⟩

/-- Places nodes while one is ready, at most `count` of them. -/
def run (g : RelationGraph) : (count : Nat) → Sorting → Sorting
  | 0, s => s
  | count + 1, s =>
    match s.next? g with
    | some s => run g count s
    | none => s

end Sorting

/-- The nodes with the source of every edge before its target; where there is no such order, the
nodes that were never ready. -/
def sort (g : RelationGraph) : Except (List String) (List String) :=
  let s := Sorting.run g g.nodes.length (Sorting.start g)
  if s.order.length = g.nodes.length then .ok s.order
  else .error ((s.pending.entries.filter fun (_, count) => decide (0 < count)).map (·.1))

end RelationGraph

/-- What is reported about the relations of a document. -/
structure RelationReport where
  nodes : Nat
  edges : Nat
  selfRelations : List String
  order : Option (List String)
  cycle : Option (List String)

def Document.relationReport (doc : Document) : RelationReport :=
  let g := RelationGraph.ofDocument doc
  let report (order cycle : Option (List String)) : RelationReport :=
    { nodes := g.nodes.length
      edges := g.edgeCount
      selfRelations := g.nodes.filter fun node => g.hasEdge node node
      order
      cycle }
  match g.sort with
  | .ok order => report (some order) none
  | .error cycle => report none (some cycle)

end SchemaMocks
