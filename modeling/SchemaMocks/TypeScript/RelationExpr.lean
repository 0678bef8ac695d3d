import SchemaMocks.TypeScript.MockExpr

set_option autoImplicit false
set_option relaxedAutoImplicit false

/-!
The expressions that generated factories write for relations. While the depth is below a bound, the
factory of the related model is called one level deeper; past the bound stands an empty list, null,
or a stub that holds the identifier of the related model alone.
-/

namespace SchemaMocks

/-- Whether the factories of a model take a depth and a bound: relations are expanded and the model
points at a known one. -/
def Model.takesDepth (model : Model) (config : GeneratorConfig) (doc : Document) : Bool :=
  config.createRelationMocks && model.relationFields.any fun field => (doc.target? field).isSome

namespace TypeScript

def factoryName (model : String) : String := "create" ++ model ++ "Mock"

def batchName (model : String) : String := "create" ++ model ++ "MockBatch"

/-- The bound that a relation expands to: the one handed down, or that one capped. -/
inductive DepthBound where
  | inherited
  | capped (limit : UInt32)
  deriving DecidableEq

def DepthBound.render : DepthBound → String
  | inherited => "maxDepth"
  | capped limit => "Math.min(maxDepth, " ++ toString limit.toNat ++ ")"

/-- The value of a bound where a bound is handed down. -/
def DepthBound.value (maxDepth : Nat) : DepthBound → Nat
  | inherited => maxDepth
  | capped limit => min maxDepth limit.toNat

/-- A call of a factory of the related model. -/
structure FactoryCall where
  target : String
  isBatch : Bool
  /-- The bound that is passed on with the next depth, where the factory takes them. -/
  passes : Option DepthBound
  deriving DecidableEq

def FactoryCall.listLength : Nat := 2

def FactoryCall.render (call : FactoryCall) : String :=
  let name := if call.isBatch then batchName call.target else factoryName call.target
  let count := toString listLength
  match call.passes, call.isBatch with
  | some bound, true => name ++ "(" ++ count ++ ", undefined, depth + 1, " ++ bound.render ++ ")"
  | some bound, false => name ++ "(undefined, depth + 1, " ++ bound.render ++ ")"
  | none, true => name ++ "(" ++ count ++ ")"
  | none, false => name ++ "()"

/-- What stands where a relation is not expanded. -/
inductive Terminal where
  | null
  | emptyList
  | stub (idField : String) (value : MockExpr)
  deriving DecidableEq

def Terminal.render : Terminal → String
  | null => "null"
  | emptyList => "[]"
  | stub idField value => "\x7b " ++ idField ++ ": " ++ value.render ++ " \x7d"

inductive RelationExpr where
  | terminal (value : Terminal)
  | expand (bound : DepthBound) (call : FactoryCall) (otherwise : Terminal)
  deriving DecidableEq

namespace RelationExpr

def render : RelationExpr → String
  | terminal value => value.render
  | expand bound call otherwise =>
    "depth < " ++ bound.render ++ " ? " ++ call.render ++ " : " ++ otherwise.render

/-- The stub of a model, null where it has no identifier. -/
def stubOf (config : GeneratorConfig) (target : Model) : Terminal :=
  match target.idField? with
  | some id => .stub id.name (MockExpr.ofSource config id id.scalarSource)
  | none => .null

def terminalOf (config : GeneratorConfig) (field : Field) (target : Model) : Terminal :=
  if field.isList then .emptyList
  else if field.isRequired then stubOf config target
  else .null

def boundOf (field : Field) : DepthBound :=
  match field.relationDepth? with
  | some depth => .capped depth
  | none => .inherited

def ofField (config : GeneratorConfig) (doc : Document) (field : Field) : RelationExpr :=
  match doc.target? field with
  | none => terminal .null
  | some target =>
    let otherwise := terminalOf config field target
    if config.createRelationMocks then
      let bound := boundOf field
      let passes := if target.takesDepth config doc then some bound else none
      expand bound ⟨target.name, field.isList, passes⟩ otherwise
    else terminal otherwise

/-- What is noticed on the way to the expression of a relation field: a required one looks up the
source of the related identifier. -/
def noticesOf (doc : Document) (field : Field) : List Notice :=
  match doc.target? field with
  | some target =>
    if field.isRequired then (target.idField?.map Field.directiveNotices).getD [] else []
  | none => []

end RelationExpr

end TypeScript

end SchemaMocks
