import SchemaMocks.TypeScript.RelationExpr
import SchemaMocks.TypeScript.Schema

set_option autoImplicit false
set_option relaxedAutoImplicit false

/-!
Mock factories of models: a type of mocks where the model has relations, a factory of one record, a
factory of several, and one whose record is validated. What a factory refers to in other models is
listed for the imports.
-/

namespace SchemaMocks.TypeScript

inductive TypeRef where
  | record
  | mock (model : String)
  | model (model : String)
  | inferred (model : String)
  deriving DecidableEq

def TypeRef.render : TypeRef → String
  | record => "Record<string, unknown>"
  | mock name => name ++ "Mock"
  | model name => name
  | inferred name => "z.infer<typeof " ++ name ++ "Schema>"

def baseType (config : GeneratorConfig) (model : String) : TypeRef :=
  if config.createModelTypes then .model model else .inferred model

def hasMockType (config : GeneratorConfig) (model : Model) : Bool :=
  config.createZodSchemas && !model.relationFields.isEmpty

def referredType (config : GeneratorConfig) (model : Model) : TypeRef :=
  if hasMockType config model then .mock model.name else baseType config model.name

def mockType (config : GeneratorConfig) (model : Model) : TypeRef :=
  if config.createZodSchemas then referredType config model else .record

inductive RelationType where
  | unknown
  | list (element : TypeRef)
  | single (target : TypeRef)
  deriving DecidableEq

namespace RelationType

def render : RelationType → String
  | unknown => "unknown"
  | list element => "Partial<" ++ element.render ++ ">[]"
  | single target => "Partial<" ++ target.render ++ "> | null"

def ofField (config : GeneratorConfig) (doc : Document) (field : Field) : RelationType :=
  match doc.target? field with
  | none => unknown
  | some target =>
    let type := referredType config target
    if field.isList then list type else single type

end RelationType

/-- A type of mocks: records with their relations replaced. -/
structure MockTypeAlias where
  base : TypeRef
  relations : List (String × RelationType)
  deriving DecidableEq

/-- The value of a field in a factory. -/
inductive MemberExpr where
  | sourced (source : MockSource) (value : MockExpr)
  /-- A pick of the declared values of an enum. -/
  | declared (value : MockExpr)
  | relation (value : RelationExpr)
  deriving DecidableEq

namespace MemberExpr

def render : MemberExpr → String
  | sourced _ value => value.render
  | declared value => value.render
  | relation value => value.render

/-- The value of a field, none for fields of unsupported kinds. -/
def ofField? (config : GeneratorConfig) (doc : Document) (field : Field) : Option MemberExpr :=
  match field.kind with
  | .scalar => some (sourced field.scalarSource (MockExpr.ofScalarField config field))
  | .enum =>
    match field.explicitSource? with
    | some source => some (sourced source (MockExpr.ofEnumField doc field))
    | none => some (declared (MockExpr.ofEnumField doc field))
  | .relation => some (relation (RelationExpr.ofField config doc field))
  | .unsupported => none

def noticesOf (doc : Document) (field : Field) : List Notice :=
  match field.kind with
  | .scalar | .enum => field.directiveNotices
  | .relation => RelationExpr.noticesOf doc field
  | .unsupported => []

end MemberExpr

structure ModelFactory where
  model : String
  mockAlias : Option MockTypeAlias
  returns : TypeRef
  /-- The bound that stands where none is passed, where the factories take a depth. -/
  maxDepth : Option UInt32
  members : List (String × MemberExpr)
  /-- The type of validated records, where there are schemas to validate with. -/
  validated : Option TypeRef
  deriving DecidableEq

namespace ModelFactory

def ofModel (config : GeneratorConfig) (doc : Document) (model : Model) : ModelFactory where
  model := model.name
  mockAlias :=
    if hasMockType config model then
      some ⟨baseType config model.name,
        model.relationFields.map fun field =>
          (field.name, RelationType.ofField config doc field)⟩
    else none
  returns := mockType config model
  maxDepth := if model.takesDepth config doc then some (config.depthFor model.name) else none
  members := model.fields.filterMap fun field =>
    (MemberExpr.ofField? config doc field).map fun value => (field.name, value)
  validated := if config.createZodSchemas then some (baseType config model.name) else none

def noticesOf (doc : Document) (model : Model) : List Notice :=
  model.fields.flatMap (MemberExpr.noticesOf doc)

def aliasLines (f : ModelFactory) : List String :=
  match f.mockAlias with
  | none => []
  | some a =>
    ["export type " ++ f.model ++ "Mock = " ++ a.base.render ++ " & \x7b"]
      ++ a.relations.map (fun (name, type) => "  " ++ name ++ ": " ++ type.render ++ ";")
      ++ ["\x7d;", ""]

def singleLines (f : ModelFactory) : List String :=
  let type := f.returns.render
  let depth := match f.maxDepth with
    | some bound => ", depth: number = 0, maxDepth: number = " ++ toString bound.toNat
    | none => ""
  ["export const " ++ factoryName f.model ++ " = (overrides?: Partial<" ++ type ++ ">" ++ depth
      ++ "): " ++ type ++ " => \x7b",
    "  return \x7b"]
    ++ f.members.map (fun (name, value) => "    " ++ name ++ ": " ++ value.render ++ ",")
    ++ ["    ...overrides,", "  \x7d;", "\x7d;", ""]

def batchLines (f : ModelFactory) : List String :=
  let type := f.returns.render
  let (parameters, arguments) := match f.maxDepth with
    | some bound =>
      (["  overrides?: Partial<" ++ type ++ ">,", "  depth: number = 0,",
        "  maxDepth: number = " ++ toString bound.toNat], "overrides, depth, maxDepth")
    | none => (["  overrides?: Partial<" ++ type ++ ">"], "overrides")
  ["export const " ++ batchName f.model ++ " = (", "  count: number = 10,"]
    ++ parameters
    ++ ["): " ++ type ++ "[] => \x7b",
      "  return Array.from(\x7b length: count \x7d, () => " ++ factoryName f.model ++ "(" ++ arguments
        ++ "));",
      "\x7d;"]

def validatedLines (f : ModelFactory) : List String :=
  match f.validated with
  | none => []
  | some type =>
    ["", "export const createValidated" ++ f.model ++ "Mock = (overrides?: Partial<"
        ++ f.returns.render ++ ">): " ++ type.render ++ " => \x7b",
      "  return " ++ f.model ++ "Schema.parse(" ++ factoryName f.model ++ "(overrides));",
      "\x7d;"]

def render (f : ModelFactory) : String :=
  "\n".intercalate (f.aliasLines ++ f.singleLines ++ f.batchLines ++ f.validatedLines)

end ModelFactory

/-- What the factories of a model refer to in other models. -/
structure MockDependencies where
  /-- The factories called, by model. -/
  factories : Dictionary (List String)
  /-- Models whose type of mocks is referred to. -/
  mockTypes : List String
  /-- Models whose schema type is referred to, or whose schema where there are no model types. -/
  schemaTypes : List String

namespace MockDependencies

/-- The other known models that the relation fields of a model point at, field by field. -/
def targetsOf (doc : Document) (model : Model) : List (Field × Model) :=
  (model.relationFields.filterMap fun field => (doc.target? field).map fun t => (field, t)).filter
    fun (_, target) => target.name != model.name

def calledFactory (field : Field) (target : Model) : String :=
  if field.isList then batchName target.name else factoryName target.name

def ofModel (config : GeneratorConfig) (doc : Document) (model : Model) : MockDependencies :=
  let targets := targetsOf doc model
  let called := fun name =>
    sortedDistinct ((targets.filter fun (_, t) => t.name == name).map fun (f, t) => calledFactory f t)
  let referred := if hasMockType config model then targets.map (·.2) else []
  let names := fun (ms : List Model) => sortedDistinct (ms.map (·.name))
  { factories :=
      if config.createRelationMocks then
        Dictionary.ofList (targets.map fun (_, t) => (t.name, called t.name))
      else Dictionary.empty
    mockTypes := names (referred.filter (hasMockType config))
    schemaTypes := names (referred.filter fun m => !hasMockType config m) }

end MockDependencies

end SchemaMocks.TypeScript
