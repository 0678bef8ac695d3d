import SchemaMocks.Config.Basic
import SchemaMocks.Mock.FieldValue
import SchemaMocks.Mock.Record

set_option autoImplicit false
set_option relaxedAutoImplicit false

/-!
Mock records. A record has a value for each field of its model that can be mocked; relations are
expanded into records of their own while the depth is below a bound. The bound of a field tightens
the bound of everything below it, so that every level leaves fewer levels below.
-/

namespace SchemaMocks

/-- What records are drawn from. -/
structure Sampler where
  document : Document
  config : GeneratorConfig
  profile : MockProfile
  /-- The length of lists of related records. -/
  batchSize : Nat

structure SamplerState where
  values : ValueState
  ledger : UniqueLedger

/-- A record or a part of one that is drawn, or a failure; what changed on the way stays changed. -/
abbrev Sampling := ExceptT MockFailure (StateM SamplerState)

namespace Sampling

def ofValueDraw {α : Type} (draw : ValueDraw α) : Sampling α :=
  fun s =>
    let (result, values) := draw.run s.values
    (result, { s with values })

instance : MonadLift ValueDraw Sampling := ⟨ofValueDraw⟩

/-- Draws a value that the ledger does not hold for a field. -/
def unique (model field : String) (draw : ValueDraw MockValue) : Sampling MockValue :=
  fun s =>
    match s.ledger.draw model field draw.run s.values with
    | (.ok value, ledger, values) => (.ok value, ⟨values, ledger⟩)
    | (.error (.exhausted key attempts), ledger, values) =>
      (.error (.exhausted key attempts), ⟨values, ledger⟩)
    | (.error (.generator e), ledger, values) => (.error e, ⟨values, ledger⟩)

end Sampling

namespace SamplerState

def ofSeed (seed : UInt64) : SamplerState :=
  ⟨⟨WordStream.ofSeed seed, Dictionary.empty, []⟩, UniqueLedger.empty⟩

def notices (s : SamplerState) : List Notice :=
  s.values.noticed.reverse

end SamplerState

namespace Sampler

/-- How long lists of related records are unless told otherwise. -/
def standardBatchSize : Nat := 2

/-- The sampler of a document and settings, around the start of 2024. -/
def ofConfig (resources : MockResources) (document : Document) (config : GeneratorConfig) :
    Sampler where
  document := document
  config := config
  profile := ⟨MockLocale.resolve config.mockDataLocale, Timestamp.start2024, config.mockDateRange,
    resources⟩
  batchSize := standardBatchSize

variable (sampler : Sampler)

/-- One of two outcomes by chance, where a condition holds. -/
def chance (condition : Bool) : ValueDraw Bool := do
  if condition then return ← Draw.boolean else return false

def scalarField (model : Model) (field : Field) : Sampling MockValue := do
  ValueDraw.notices field.directiveNotices
  let source := field.scalarSource
  if ← chance (!field.isRequired && source.mayBeNull) then return .null
  else
    let single := source.value sampler.profile model field
    match field.isList, source with
    | true, .directive d => d.listValue sampler.profile field.name field.scalar?
    | true, .semantic .. | true, .typeDefault _ => Directive.oneToThree single
    | _, _ =>
      if field.isUnique || field.isId then Sampling.unique model.name field.name single else single

/-- A declared value of the enum of a field; null where there is none. -/
def enumValue (field : Field) : ValueDraw MockValue := do
  let names := ((sampler.document.enum? field.typeName).map EnumType.valueNames).getD []
  if names.isEmpty then return .null
  else if ← chance (!field.isRequired) then return .null
  else if field.isList then return .list ((← Draw.subset names).map MockValue.text)
  else return ((← Draw.pick names).map MockValue.text).getD .null

def enumField (model : Model) (field : Field) : ValueDraw MockValue := do
  ValueDraw.notices field.directiveNotices
  match field.explicitSource? with
  | none => sampler.enumValue field
  | some (.directive d) =>
    if ← chance (!field.isRequired) then return .null
    else if field.isList then d.listValue sampler.profile field.name none
    else (MockSource.directive d).value sampler.profile model field
  | some source => source.value sampler.profile model field

/-- The identifier of a record alone, null for a model without one. -/
def stub (target : Model) : ValueDraw (MockMember MockValue) := do
  match target.idField? with
  | none => return .null
  | some id =>
    ValueDraw.notices id.directiveNotices
    return .stub id.name (← id.scalarSource.value sampler.profile target id)

/-- What stands for a relation that is not expanded. -/
def terminal (field : Field) (target : Model) : ValueDraw (MockMember MockValue) :=
  if field.isList then return .emptyList
  else if field.isRequired then sampler.stub target
  else return .null

/-- The bound below a field: the one from above, or the field's own where that is tighter. -/
def boundBelow (field : Field) (bound : UInt32) : UInt32 :=
  match field.relationDepth? with
  | some depth => min depth bound
  | none => bound

/-- The depth and the bound one level down, where a relation field is expanded. -/
def nextLevel? (field : Field) (depth bound : UInt32) : Option (UInt32 × UInt32) :=
  let below := boundBelow field bound
  if sampler.config.createRelationMocks && depth < below then some (depth + 1, below) else none

theorem toNat_boundBelow (field : Field) (bound : UInt32) :
    (boundBelow field bound).toNat =
      (field.relationDepth?.map fun depth => min depth.toNat bound.toNat).getD bound.toNat := by
  unfold boundBelow
  split
  · rename_i depth hdepth
    rw [hdepth]
    change (if depth ≤ bound then depth else bound).toNat = min depth.toNat bound.toNat
    split <;> rename_i h <;> rw [UInt32.le_iff_toNat_le] at h <;> omega
  · rename_i hdepth
    rw [hdepth]
    rfl

theorem boundBelow_le (field : Field) (bound : UInt32) :
    (boundBelow field bound).toNat ≤ bound.toNat := by
  rw [toNat_boundBelow]
  cases field.relationDepth? with
  | none => exact Nat.le_refl _
  | some depth => exact Nat.min_le_right _ _

/-- One level down the depth is one more as a number: it stays within the bound, so that adding
never goes past the largest word. -/
theorem nextLevel?_eq_some {field : Field} {depth bound next below : UInt32}
    (h : sampler.nextLevel? field depth bound = some (next, below)) :
    sampler.config.createRelationMocks = true ∧ depth < below ∧ below = boundBelow field bound ∧
      next.toNat = depth.toNat + 1 := by
  simp only [nextLevel?, Option.ite_none_right_eq_some, Bool.and_eq_true, decide_eq_true_eq,
    Option.some.injEq, Prod.mk.injEq] at h
  obtain ⟨⟨hcreate, hlt⟩, rfl, rfl⟩ := h
  have hdepth := UInt32.lt_iff_toNat_lt.1 hlt
  have hbelow := (boundBelow field bound).toNat_lt
  refine ⟨hcreate, hlt, rfl, ?_⟩
  rw [UInt32.toNat_add]
  exact Nat.mod_eq_of_lt (Nat.lt_of_le_of_lt hdepth hbelow)

/-- Every level leaves fewer levels below it. -/
theorem nextLevel?_fewer {field : Field} {depth bound next below : UInt32}
    (h : sampler.nextLevel? field depth bound = some (next, below)) :
    below.toNat - next.toNat < bound.toNat - depth.toNat := by
  obtain ⟨-, hlt, rfl, hnext⟩ := sampler.nextLevel?_eq_some h
  have hdepth := UInt32.lt_iff_toNat_lt.1 hlt
  have hbound := boundBelow_le field bound
  omega

/-- Draws a record of a model at a depth and under a bound that leave fewer levels than others. -/
abbrev Expander (depth bound : UInt32) :=
  Model → (next below : UInt32) → below.toNat - next.toNat < bound.toNat - depth.toNat →
    Sampling (MockRecord MockValue)

def relationField {depth bound : UInt32} (expand : Expander depth bound) (field : Field) :
    Sampling (MockMember MockValue) :=
  match sampler.document.target? field with
  | none => return .null
  | some target =>
    match h : sampler.nextLevel? field depth bound with
    | none => sampler.terminal field target
    | some (next, below) =>
      let draw := expand target next below (sampler.nextLevel?_fewer h)
      if field.isList then do
        return .list (← (List.range sampler.batchSize).mapM fun _ => draw)
      else do return .single (← draw)

/-- What a record holds for a field; for fields without a usable type it holds nothing. -/
def member {depth bound : UInt32} (expand : Expander depth bound) (model : Model) (field : Field) :
    Sampling (Option (MockMember MockValue)) :=
  match field.kind with
  | .scalar => do return some (.value (← sampler.scalarField model field))
  | .enum => do return some (.value (← sampler.enumField model field))
  | .relation => do return some (← sampler.relationField expand field)
  | .unsupported => return none

def members {depth bound : UInt32} (expand : Expander depth bound) (model : Model) :
    List Field → Sampling (List (String × MockMember MockValue))
  | [] => return []
  | field :: rest => do
    match ← sampler.member expand model field with
    | some member => return (field.name, member) :: (← members expand model rest)
    | none => members expand model rest

/-- A record of a model at a depth, under a bound. -/
def record (model : Model) (depth bound : UInt32) : Sampling (MockRecord MockValue) := do
  let expand : Expander depth bound := fun target next below _ => record target next below
  return .of model.name (← sampler.members expand model model.fields)
termination_by bound.toNat - depth.toNat

/-- So many records of the model of a name. -/
def records (modelName : String) (count : Nat) : Sampling (List (MockRecord MockValue)) :=
  match sampler.document.model? modelName with
  | none => throw (.unknownModel modelName)
  | some model => do
    let maxDepth := sampler.config.depthFor model.name
    ValueDraw.notice (.samplingStarted model.name count maxDepth)
    (List.range count).mapM fun _ => sampler.record model 0 maxDepth

def sample (modelName : String) (count : Nat) : Sampling (List Json) := do
  return (← sampler.records modelName count).map MockRecord.toJson

end Sampler

end SchemaMocks
