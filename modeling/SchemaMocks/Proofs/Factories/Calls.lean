import SchemaMocks.Proofs.Datamodel.Validation
import SchemaMocks.Proofs.Factories.Evaluation
import SchemaMocks.Proofs.Sampling.Expansion

set_option autoImplicit false
set_option relaxedAutoImplicit false

/-!
Calls of generated factories. A name leads to the factory that is printed under it. Whatever a call
leaves out stands for a default, and the factory of several records hands on all that it is passed
to the one of one record.
-/

namespace SchemaMocks.TypeScript

section Calls

variable {config : GeneratorConfig} {doc : Document} {model target : Model} {field : Field}
  {supplied : String → Evaluation Unit}

theorem takesDepth_of_target (hcreate : config.createRelationMocks = true)
    (hfield : field ∈ model.fields) (hkind : field.kind = .relation)
    (htarget : doc.target? field = some target) : model.takesDepth config doc = true := by
  rw [Model.takesDepth, hcreate, Bool.true_and, List.any_eq_true]
  refine ⟨field, List.mem_filter.2 ⟨hfield, by simp [Field.isRelation, hkind]⟩, ?_⟩
  rw [htarget, Option.isSome_some]

private theorem find?_functions (config : GeneratorConfig) (doc : Document) (models : List Model)
    (name : String) :
    let functions := models.flatMap fun model =>
      let f := ModelFactory.ofModel config doc model
      [f.single, f.batch]
    functions.find? (·.name == factoryName name) =
        ((models.find? (·.name == name)).map fun model =>
          (ModelFactory.ofModel config doc model).single) ∧
      functions.find? (·.name == batchName name) =
        (models.find? (·.name == name)).map fun model =>
          (ModelFactory.ofModel config doc model).batch := by
  intro functions
  induction models with
  | nil => exact ⟨rfl, rfl⟩
  | cons model rest ih =>
    have hsingle : (ModelFactory.ofModel config doc model).single.name = factoryName model.name := rfl
    have hbatch : (ModelFactory.ofModel config doc model).batch.name = batchName model.name := rfl
    simp only [functions, List.flatMap_cons, List.cons_append, List.nil_append, List.find?_cons,
      hsingle, hbatch, factoryName_injective.beq_eq, batchName_injective.beq_eq,
      beq_eq_false_iff_ne.2 (factoryName_ne_batchName _ _),
      beq_eq_false_iff_ne.2 (factoryName_ne_batchName _ _).symm]
    cases model.name == name with
    | true => exact ⟨rfl, rfl⟩
    | false => exact ih

theorem declared_single {name : String} (h : doc.model? name = some model) :
    (Program.ofDocument config doc supplied).declared (factoryName name) =
      pure (ModelFactory.ofModel config doc model).single := by
  have hfind := (find?_functions config doc doc.models name).1
  rw [Program.declared, Program.ofDocument, hfind, ← Document.model?, h]
  rfl

theorem declared_batch {name : String} (h : doc.model? name = some model) :
    (Program.ofDocument config doc supplied).declared (batchName name) =
      pure (ModelFactory.ofModel config doc model).batch := by
  have hfind := (find?_functions config doc doc.models name).2
  rw [Program.declared, Program.ofDocument, hfind, ← Document.model?, h]
  rfl

theorem boundOf_value (field : Field) (bound : Nat) :
    (RelationExpr.boundOf field).value bound = Sampler.limit field bound := by
  rw [RelationExpr.boundOf, Sampler.limit]
  cases field.relationDepth? with
  | none => rfl
  | some depth => exact Nat.min_comm _ _

end Calls

section Passing

variable {program : Program} {env : Environment} {levels more : Nat}
  {depth bound : Nat}

def Environment.Has (env : Environment) (depth bound : Nat) : Prop :=
  env.argument "depth" = pure (.number depth) ∧ env.argument "maxDepth" = pure (.number bound)

def passedDown (takes : Bool) (depth bound : Nat) : List Argument :=
  if takes then [.undefined, .number depth, .number bound] else []

private theorem evaluate_operand (henv : env.Has depth bound) (limit : DepthBound) :
    limit.operand.evaluate env = pure (.number (limit.value bound)) := by
  cases limit with
  | inherited => exact henv.2
  | capped limit =>
    simp only [DepthBound.operand, Operand.evaluate, henv.2]
    rfl

theorem evaluateNumber_operand (henv : env.Has depth bound) (limit : DepthBound) :
    limit.operand.evaluateNumber env = pure (limit.value bound) := by
  rw [Operand.evaluateNumber, evaluate_operand henv]
  rfl

private theorem evaluate_nextDepth (henv : env.Has depth bound) :
    nextDepth.evaluate env = pure (.number (depth + 1)) := by
  simp only [nextDepth, Operand.evaluate, henv.1]
  rfl

theorem mapM_arguments (henv : env.Has depth bound) (target : String) (isBatch takes : Bool)
    (limit : DepthBound) :
    (FactoryCall.invocation ⟨target, isBatch, if takes then some limit else none⟩).arguments.mapM
        (Operand.evaluate env) =
      pure ((if isBatch then [.number FactoryCall.listLength] else []) ++
        passedDown takes (depth + 1) (limit.value bound)) := by
  unfold FactoryCall.invocation passedDown
  cases takes <;> cases isBatch <;>
    simp [Operand.evaluate, evaluate_nextDepth henv, evaluate_operand henv]

def EndsIn (program : Program) (levels : Nat) (name : String) (passed : List Argument)
    (made : Made) : Prop :=
  ∀ more, levels ≤ more → program.run more name passed = pure made

theorem EndsIn.mono {name : String} {passed : List Argument} {made : Made}
    (h : EndsIn program levels name passed made) (hmore : levels ≤ more) :
    EndsIn program more name passed made :=
  fun _ hstill => h _ (Nat.le_trans hmore hstill)

end Passing

section Handing

variable {config : GeneratorConfig} {doc : Document} {supplied : String → Evaluation Unit}
  {model target : Model} {field : Field} {depth bound levels : Nat} {passed : List Argument}
  {tree : MockRecord MockExpr}

def environmentOf (config : GeneratorConfig) (doc : Document) (model : Model)
    (passed : List Argument) : Environment :=
  .ofPassed (ModelFactory.ofModel config doc model).parameters passed

def Hands (config : GeneratorConfig) (doc : Document) (model : Model) (depth bound : Nat)
    (passed : List Argument) : Prop :=
  model.takesDepth config doc = true → (environmentOf config doc model passed).Has depth bound

theorem parameters_ofModel (config : GeneratorConfig) (doc : Document) (model : Model) :
    ∃ type, (ModelFactory.ofModel config doc model).parameters = ⟨"overrides", true, type, none⟩ ::
      if model.takesDepth config doc then
        [⟨"depth", false, "number", some 0⟩,
          ⟨"maxDepth", false, "number", some (config.depthFor model.name).toNat⟩]
      else [] := by
  refine ⟨"Partial<" ++ (mockType config model).render ++ ">", ?_⟩
  unfold ModelFactory.parameters ModelFactory.ofModel
  cases model.takesDepth config doc <;> rfl

private theorem hands_of (h : ∀ type, model.takesDepth config doc = true →
    (Environment.ofPassed [⟨"overrides", true, type, none⟩, ⟨"depth", false, "number", some 0⟩,
      ⟨"maxDepth", false, "number", some (config.depthFor model.name).toNat⟩] passed).Has
        depth bound) :
    Hands config doc model depth bound passed := by
  intro htakes
  obtain ⟨type, hparameters⟩ := parameters_ofModel config doc model
  rw [environmentOf, hparameters, if_pos htakes]
  exact h type htakes

theorem hands_nothing (config : GeneratorConfig) (doc : Document) (model : Model) :
    Hands config doc model 0 (config.depthFor model.name).toNat [] :=
  hands_of fun _ _ => ⟨rfl, rfl⟩

theorem hands_passedDown (config : GeneratorConfig) (doc : Document) (model : Model)
    (depth bound : Nat) :
    Hands config doc model depth bound (passedDown (model.takesDepth config doc) depth bound) := by
  refine hands_of fun _ htakes => ?_
  rw [htakes]
  exact ⟨rfl, rfl⟩

def handedOn (takes : Bool) (depth bound : Nat) : List Argument :=
  .undefined :: if takes then [.number depth, .number bound] else []

theorem hands_handedOn (config : GeneratorConfig) (doc : Document) (model : Model)
    (depth bound : Nat) :
    Hands config doc model depth bound (handedOn (model.takesDepth config doc) depth bound) := by
  refine hands_of fun _ htakes => ?_
  rw [htakes]
  exact ⟨rfl, rfl⟩

theorem overrides_environmentOf (config : GeneratorConfig) (doc : Document) (model : Model)
    (passed : List Argument) :
    ∃ argument, (environmentOf config doc model passed).argument "overrides" = pure argument := by
  obtain ⟨type, hparameters⟩ := parameters_ofModel config doc model
  rw [environmentOf, hparameters]
  exact ⟨_, rfl⟩

theorem evaluate_record {program : Program} {run : String → List Argument → Evaluation Made}
    {env : Environment} {members : List (String × MemberCode)} {spread : String}
    {entries : List (String × MockMember MockExpr)} {argument : Argument} (name : String)
    (hentries : members.mapM (evaluateEntry program run env) = pure entries)
    (hspread : env.argument spread = pure argument) :
    (FactoryBody.record members spread).evaluate program run env name =
      pure (.record (.of name entries)) := by
  simp only [FactoryBody.evaluate, hentries, hspread, pure_bind]

private theorem evaluate_repeated {program : Program}
    {run : String → List Argument → Evaluation Made}
    {env : Environment} {operand : Operand} {call : Invocation} {count : Nat} (name : String)
    (hcount : operand.evaluateNumber env = pure count)
    (hcall : call.evaluate run env = pure (.record tree)) :
    (FactoryBody.repeated operand call).evaluate program run env name =
      pure (.list (List.replicate count tree)) := by
  have hrecords (n : Nat) : (List.replicate n (Made.record tree)).mapM Made.toRecord =
      pure (List.replicate n tree) := by
    induction n with
    | zero => rfl
    | succ n ih =>
      rw [List.replicate_succ, List.mapM_cons, ih]
      rfl
  simp only [FactoryBody.evaluate, hcount, hcall, pure_bind, List.mapM_pure, List.map_const',
    List.length_range, hrecords]

theorem endsIn_batch (hmodel : doc.model? target.name = some target) (count : Nat)
    (htree : EndsIn (.ofDocument config doc supplied) levels (factoryName target.name)
      (handedOn (target.takesDepth config doc) depth bound) (.record tree)) :
    EndsIn (.ofDocument config doc supplied) (levels + 1) (batchName target.name)
      (.number count :: passedDown (target.takesDepth config doc) depth bound)
      (.list (List.replicate count tree)) := by
  intro more hmore
  obtain ⟨more, rfl⟩ := Nat.exists_eq_add_one_of_ne_zero (by omega : more ≠ 0)
  rw [Program.run_succ (declared_batch hmodel)]
  refine evaluate_repeated _ rfl ?_
  -- the factory of several records has the parameters of the other one, and hands on all of them
  have harguments : ((ModelFactory.ofModel config doc target).parameters.map
      fun p => Operand.parameter p.name).mapM (Operand.evaluate (.ofPassed
        (ModelFactory.ofModel config doc target).batch.parameters
        (.number count :: passedDown (target.takesDepth config doc) depth bound))) =
        pure (handedOn (target.takesDepth config doc) depth bound) := by
    obtain ⟨type, hparameters⟩ := parameters_ofModel config doc target
    simp only [ModelFactory.batch, hparameters]
    cases target.takesDepth config doc <;> rfl
  rw [Invocation.evaluate, harguments, pure_bind]
  exact htree more (by omega)

end Handing

end SchemaMocks.TypeScript
