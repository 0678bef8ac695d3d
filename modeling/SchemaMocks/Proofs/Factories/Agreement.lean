import SchemaMocks.Mock.Vocabulary
import SchemaMocks.Proofs.Factories.Calls
import SchemaMocks.Proofs.Factories.Supplied
import SchemaMocks.Proofs.Sampling.Outline

set_option autoImplicit false
set_option relaxedAutoImplicit false

/-!
The factories that are generated for a document expand relations as the sampler does. A call passes
depth and bound on exactly where the called factory declares them; where it does not declare them
there is nothing to expand, so that nothing goes on forever by starting again at depth zero. Code
that the documentation supplies may call factories as it likes, so that it is asked to come to a
value.
-/

namespace SchemaMocks.TypeScript

section Trees

variable {config : GeneratorConfig} {doc : Document} {supplied : String → Evaluation Unit}
  {model target : Model} {field : Field} {depth bound levels : Nat} {env : Environment}

def Fills (program : Program) (levels : Nat) (env : Environment) (outline : MockMember Unit)
    (code : MemberCode) : Prop :=
  ∃ member, (∀ more, levels ≤ more →
    code.evaluate program (program.run more) env = pure member) ∧ member.shape = outline

private theorem fills_value {program : Program} {e : MockExpr}
    (h : ∀ code ∈ e.supplied, program.supplied code = pure ()) :
    Fills program levels env (.value ()) (.value e) := by
  refine ⟨.value e, fun more _ => ?_, rfl⟩
  rw [MemberCode.evaluate, MockExpr.evaluate_of_supplied h, pure_bind]

private theorem fills_call {program : Program} {call : Invocation} {passed : List Argument}
    {made : Made}
    (harguments : call.arguments.mapM (Operand.evaluate env) = pure passed)
    (hmade : EndsIn program levels call.name passed made) :
    Fills program levels env made.toMember.shape (.call call) := by
  refine ⟨made.toMember, fun more hmore => ?_, rfl⟩
  rw [MemberCode.evaluate, Invocation.evaluate, harguments, pure_bind, hmade more hmore, pure_bind]

private theorem fills_ifLess {program : Program} {outline : MockMember Unit} {yes no : MemberCode}
    (henv : env.Has depth bound) (limit : DepthBound)
    (h : Fills program levels env outline (if depth < limit.value bound then yes else no)) :
    Fills program levels env outline (.ifLess (.parameter "depth") limit.operand yes no) := by
  obtain ⟨member, hmember, hshape⟩ := h
  have hdepth : (Operand.parameter "depth").evaluateNumber env = pure depth := by
    rw [Operand.evaluateNumber, Operand.evaluate, henv.1]
    rfl
  refine ⟨member, fun more hmore => ?_, hshape⟩
  rw [MemberCode.evaluate, hdepth, evaluateNumber_operand henv, pure_bind, pure_bind,
    ← hmember more hmore]
  split_ifs <;> rfl

def outliner (config : GeneratorConfig) (doc : Document) : Outliner :=
  ⟨doc, config, FactoryCall.listLength⟩

/-- Whether all code that the documentation of a document supplies comes to values. -/
def SuppliesValues (doc : Document) (supplied : String → Evaluation Unit) : Prop :=
  ∀ owner ∈ doc.models, ∀ field ∈ owner.fields, ∀ code ∈ field.suppliedCode,
    supplied code = pure ()

/-- A factory ends, and builds a tree of an outline. -/
def Builds (config : GeneratorConfig) (doc : Document) (supplied : String → Evaluation Unit)
    (model : Model) (depth bound : Nat) (passed : List Argument) : Prop :=
  ∃ tree, EndsIn (.ofDocument config doc supplied) (2 * (bound - depth) + 1)
      (factoryName model.name) passed (.record tree) ∧
    tree.shape = (outliner config doc).record model depth bound

variable (hsupplied : SuppliesValues doc supplied)

include hsupplied

private theorem fills_terminal (htarget : doc.target? field = some target) :
    Fills (.ofDocument config doc supplied) levels env (Outliner.terminal field target)
      (RelationExpr.terminalOf config field target).code := by
  have hknown := Document.mem_of_model?_eq_some (Document.model?_name_of_target? htarget)
  unfold RelationExpr.terminalOf RelationExpr.stubOf Outliner.terminal
  split_ifs
  · exact ⟨.emptyList, fun _ _ => rfl, rfl⟩
  · cases hid : target.idField? with
    | none => exact ⟨.null, fun _ _ => rfl, rfl⟩
    | some id =>
      have hmem : id ∈ target.fields := List.mem_of_find?_eq_some hid
      have hcode : ∀ code ∈ (MockExpr.ofSource config id id.scalarSource).supplied,
          supplied code = pure () := fun code hcode =>
        hsupplied target hknown.1 id hmem code
          (supplied_ofSource (fun d hd => directive?_of_scalarSource hd) hcode)
      refine ⟨.stub id.name (MockExpr.ofSource config id id.scalarSource), fun more _ => ?_, rfl⟩
      dsimp only
      rw [Terminal.code, MemberCode.evaluate]
      have hvalue : (MockExpr.ofSource config id id.scalarSource).evaluate
          (.ofDocument config doc supplied) = pure _ := MockExpr.evaluate_of_supplied hcode
      rw [hvalue, pure_bind]
  · exact ⟨.null, fun _ _ => rfl, rfl⟩

private theorem fills_sourced {expr : MemberExpr} (hmodel : model ∈ doc.models)
    (hfield : field ∈ model.fields)
    (hkind : field.kind ≠ .relation) (hexpr : MemberExpr.ofField? config doc field = some expr) :
    Fills (.ofDocument config doc supplied) levels env
      ((outliner config doc).member field depth bound) expr.code := by
  have hown (codes : List String) (hcodes : codes ⊆ field.suppliedCode) :
      ∀ code ∈ codes, supplied code = pure () :=
    fun code hcode => hsupplied model hmodel field hfield code (hcodes hcode)
  rw [Outliner.member_value hkind]
  unfold MemberExpr.ofField? at hexpr
  split at hexpr
  · obtain rfl := Option.some.inj hexpr
    exact fills_value (hown _ (supplied_ofScalarField config field))
  · split at hexpr <;> obtain rfl := Option.some.inj hexpr <;>
      exact fills_value (hown _ (supplied_ofEnumField doc field))
  · exact absurd ‹_› hkind
  · cases hexpr

section Below

variable {passed : List Argument} (hfield : field ∈ model.fields)
  (hpassed : Hands config doc model depth bound passed)
  (hbelow : ∀ target passed, depth < Sampler.limit field bound →
    doc.model? target.name = some target →
    Hands config doc target (depth + 1) (Sampler.limit field bound) passed →
    Builds config doc supplied target (depth + 1) (Sampler.limit field bound) passed)

include hfield hpassed hbelow

omit hsupplied in
private theorem fills_expanded (hkind : field.kind = .relation)
    (htarget : doc.target? field = some target) (hcreate : config.createRelationMocks = true)
    (hdepth : depth < Sampler.limit field bound) :
    Fills (.ofDocument config doc supplied) (2 * (bound - depth))
      (environmentOf config doc model passed) ((outliner config doc).member field depth bound)
      (.call (FactoryCall.invocation ⟨target.name, field.isList,
        if target.takesDepth config doc then some (RelationExpr.boundOf field) else none⟩)) := by
  have henv := hpassed (takesDepth_of_target hcreate hfield hkind htarget)
  have hknown := Document.model?_name_of_target? htarget
  have hlimit := Sampler.limit_le field bound
  have hpasses := mapM_arguments henv target.name field.isList (target.takesDepth config doc)
    (RelationExpr.boundOf field)
  rw [boundOf_value] at hpasses
  rw [Outliner.member_expanded hkind htarget ⟨hcreate, hdepth⟩]
  cases hlist : field.isList with
  | true =>
    rw [hlist] at hpasses
    obtain ⟨tree, htree, hshape⟩ := hbelow target _ hdepth hknown
      (hands_handedOn config doc target (depth + 1) (Sampler.limit field bound))
    have hbatch := (endsIn_batch hknown FactoryCall.listLength htree).mono
      (by omega : _ ≤ 2 * (bound - depth))
    have hfills := fills_call hpasses hbatch
    rwa [Made.toMember, MockMember.shape, shapeOfRecords_eq_map, List.map_replicate,
      hshape] at hfills
  | false =>
    rw [hlist] at hpasses
    obtain ⟨tree, htree, hshape⟩ := hbelow target _ hdepth hknown
      (hands_passedDown config doc target (depth + 1) (Sampler.limit field bound))
    have hfills := fills_call hpasses (htree.mono (by omega : _ ≤ 2 * (bound - depth)))
    rwa [Made.toMember, MockMember.shape, hshape] at hfills

private theorem fills_relation (hkind : field.kind = .relation) :
    Fills (.ofDocument config doc supplied) (2 * (bound - depth))
      (environmentOf config doc model passed)
      ((outliner config doc).member field depth bound)
      (MemberExpr.relation (RelationExpr.ofField config doc field)).code := by
  unfold RelationExpr.ofField
  cases htarget : doc.target? field with
  | none =>
    rw [Outliner.member_unknown hkind htarget]
    exact ⟨.null, fun _ _ => rfl, rfl⟩
  | some target =>
    have hterminal {levels : Nat} {env : Environment} :
        Fills (.ofDocument config doc supplied) levels env (Outliner.terminal field target)
          (RelationExpr.terminalOf config field target).code :=
      fills_terminal hsupplied htarget
    dsimp only
    cases hcreate : config.createRelationMocks with
    | false =>
      rw [Outliner.member_terminal hkind htarget (by simp [outliner, hcreate])]
      exact hterminal
    | true =>
      have henv := hpassed (takesDepth_of_target hcreate hfield hkind htarget)
      rw [if_pos rfl]
      refine fills_ifLess henv _ ?_
      rw [boundOf_value]
      by_cases hdepth : depth < Sampler.limit field bound
      · rw [if_pos hdepth]
        exact fills_expanded hfield hpassed hbelow hkind htarget hcreate hdepth
      · rw [if_neg hdepth, Outliner.member_terminal hkind htarget fun h => hdepth h.2]
        exact hterminal

end Below

omit hsupplied in
theorem ofField?_isSome_iff (config : GeneratorConfig) (doc : Document) (field : Field) :
    (MemberExpr.ofField? config doc field).isSome ↔ Sampler.IsMocked field := by
  unfold MemberExpr.ofField? Sampler.IsMocked
  split
  · rename_i hkind
    simp [hkind]
  · rename_i hkind
    split <;> simp [hkind]
  · rename_i hkind
    simp [hkind]
  · rename_i hkind
    simp [hkind]

def membersOf (config : GeneratorConfig) (doc : Document) (fields : List Field) :
    List (String × MemberCode) :=
  fields.filterMap fun field =>
    (MemberExpr.ofField? config doc field).map fun expr => (field.name, expr.code)

omit hsupplied in
private theorem body_single (config : GeneratorConfig) (doc : Document) (model : Model) :
    (ModelFactory.ofModel config doc model).single.body =
      .record (membersOf config doc model.fields) "overrides" := by
  simp only [ModelFactory.single, ModelFactory.ofModel, membersOf, List.map_filterMap,
    Option.map_map]
  rfl

omit hsupplied in
private theorem fills_members (program : Program) (levels : Nat) (env : Environment)
    (fields : List Field)
    (h : ∀ field ∈ fields, ∀ expr, MemberExpr.ofField? config doc field = some expr →
      Fills program levels env ((outliner config doc).member field depth bound) expr.code) :
    ∃ members,
      (∀ more, levels ≤ more → (membersOf config doc fields).mapM
        (evaluateEntry program (program.run more) env) = pure members) ∧
      MockMember.shapeOfEntries members = (Sampler.mocked fields).map fun field =>
        (field.name, (outliner config doc).member field depth bound) := by
  induction fields with
  | nil => exact ⟨[], fun _ _ => rfl, rfl⟩
  | cons field rest ih =>
    obtain ⟨hfield, hrest⟩ := List.forall_mem_cons.1 h
    obtain ⟨members, hmembers, hshapes⟩ := ih hrest
    have hmocked := ofField?_isSome_iff config doc field
    cases hexpr : MemberExpr.ofField? config doc field with
    | none =>
      have hno : ¬Sampler.IsMocked field := by simpa [hexpr] using hmocked
      refine ⟨members, fun more hmore => ?_, ?_⟩
      · simpa [membersOf, List.filterMap_cons, hexpr] using hmembers more hmore
      · simpa [Sampler.mocked, List.filter_cons, hno] using hshapes
    | some expr =>
      have hyes : Sampler.IsMocked field := by simpa [hexpr] using hmocked
      obtain ⟨member, hmember, hshape⟩ := hfield expr hexpr
      have hcons : membersOf config doc (field :: rest) =
          (field.name, expr.code) :: membersOf config doc rest := by
        simp [membersOf, hexpr]
      refine ⟨(field.name, member) :: members, fun more hmore => ?_, ?_⟩
      · rw [hcons, List.mapM_cons, evaluateEntry, hmember more hmore, hmembers more hmore]
        rfl
      · rw [MockMember.shapeOfEntries, hshapes, hshape]
        simp [Sampler.mocked, hyes]

private theorem builds (config : GeneratorConfig) (model : Model) (depth bound : Nat)
    (passed : List Argument) (hmodel : doc.model? model.name = some model)
    (hpassed : Hands config doc model depth bound passed) :
    Builds config doc supplied model depth bound passed := by
  induction hlevels : bound - depth using Nat.strongRecOn generalizing model depth bound passed with
  | ind levels ih =>
    -- every call leaves fewer levels, as it hands on the next depth under a bound that is no wider
    have hbelow (field : Field) : ∀ target passed, depth < Sampler.limit field bound →
        doc.model? target.name = some target →
        Hands config doc target (depth + 1) (Sampler.limit field bound) passed →
        Builds config doc supplied target (depth + 1) (Sampler.limit field bound) passed := by
      intro target passed hdepth hknown hhands
      have hlimit := Sampler.limit_le field bound
      exact ih _ (by omega) target _ _ passed hknown hhands rfl
    have hmem := (Document.mem_of_model?_eq_some hmodel).1
    obtain ⟨members, hmembers, hshapes⟩ := fills_members (.ofDocument config doc supplied)
      (2 * (bound - depth)) (environmentOf config doc model passed) model.fields
      fun field hfield expr hexpr => by
        by_cases hkind : field.kind = .relation
        · simp only [MemberExpr.ofField?, hkind, Option.some.injEq] at hexpr
          exact hexpr ▸ fills_relation hsupplied hfield hpassed (hbelow field) hkind
        · exact fills_sourced hsupplied hmem hfield hkind hexpr
    refine ⟨.of model.name members, fun more hmore => ?_, ?_⟩
    · obtain ⟨more, rfl⟩ := Nat.exists_eq_add_one_of_ne_zero (by omega : more ≠ 0)
      obtain ⟨argument, hargument⟩ := overrides_environmentOf config doc model passed
      rw [Program.run_succ (declared_single hmodel), body_single]
      exact evaluate_record model.name (hmembers more (by omega)) hargument
    · rw [MockRecord.shape, hshapes, Outliner.record]

end Trees

section Agreement

variable {config : GeneratorConfig} {doc : Document} {supplied : String → Evaluation Unit}

/-- Whether code calls nothing and compares nothing. -/
def MemberCode.isLiteral : MemberCode → Bool
  | value _ | null | emptyList | stub .. => true
  | call _ | ifLess .. => false

/-- Whether a call passes the next depth and a bound exactly where the called function declares
depth and bound, and nothing that the function does not declare. -/
def Invocation.PassesDown (program : Program) (call : Invocation) (bound : Operand) : Prop :=
  ∃ callee, program.declared call.name = pure callee ∧
    call.arguments.length ≤ callee.parameters.length ∧
    (("depth", nextDepth) ∈ callee.parameterNames.zip call.arguments ↔
      "depth" ∈ callee.parameterNames) ∧
    (("maxDepth", bound) ∈ callee.parameterNames.zip call.arguments ↔
      "maxDepth" ∈ callee.parameterNames) ∧
    ("depth" ∈ callee.parameterNames ↔ "maxDepth" ∈ callee.parameterNames)

/-- Whether code is a literal, or a call on the condition that the depth is below the bound handed
down or that bound capped, in which case it is that bound that the call passes. -/
def MemberCode.Expands (program : Program) (code : MemberCode) : Prop :=
  code.isLiteral = true ∨ ∃ (bound : DepthBound) (call : Invocation) (otherwise : MemberCode),
    code = .ifLess (.parameter "depth") bound.operand (.call call) otherwise ∧
      otherwise.isLiteral = true ∧ call.PassesDown program bound.operand

private theorem isLiteral_code (value : Terminal) : value.code.isLiteral = true := by
  cases value <;> rfl

private theorem passesDown_ofField {target : Model} (hknown : doc.model? target.name = some target)
    (isBatch : Bool) (bound : DepthBound) :
    (FactoryCall.invocation ⟨target.name, isBatch,
      if target.takesDepth config doc then some bound else none⟩).PassesDown
        (.ofDocument config doc supplied) bound.operand := by
  obtain ⟨type, hparameters⟩ := parameters_ofModel config doc target
  cases isBatch with
  | true =>
    refine ⟨_, declared_batch hknown, ?_⟩
    simp only [FactoryFunction.parameterNames, ModelFactory.batch, FactoryCall.invocation,
      hparameters]
    cases target.takesDepth config doc <;> simp
  | false =>
    refine ⟨_, declared_single hknown, ?_⟩
    simp only [FactoryFunction.parameterNames, ModelFactory.single, FactoryCall.invocation,
      hparameters]
    cases target.takesDepth config doc <;> simp

private theorem used_of_isLiteral {code : MemberCode} (h : code.isLiteral = true) :
    code.used = [] := by
  cases code with
  | call | ifLess => cases h
  | _ => rfl

private theorem used_invocation (call : FactoryCall) :
    call.invocation.used ⊆ ["depth", "maxDepth"] := by
  obtain ⟨target, isBatch, passes⟩ := call
  cases isBatch <;> rcases passes with _ | _ | limit <;>
    simp [FactoryCall.invocation, Invocation.used, Operand.used, nextDepth, DepthBound.operand]

private theorem used_operand (bound : DepthBound) : bound.operand.used ⊆ ["depth", "maxDepth"] := by
  cases bound <;> simp [DepthBound.operand, Operand.used]

private theorem used_expand (bound : DepthBound) (call : FactoryCall) (otherwise : Terminal) :
    (MemberExpr.relation (.expand bound call otherwise)).code.used ⊆ ["depth", "maxDepth"] := by
  simp only [MemberExpr.code, MemberCode.used, used_of_isLiteral (isLiteral_code _), List.append_nil]
  exact List.append_subset.2 ⟨List.append_subset.2 ⟨by decide, used_operand _⟩, used_invocation _⟩

private theorem depth_subset_parameterNames {owner : Model}
    (h : owner.takesDepth config doc = true) :
    ["depth", "maxDepth"] ⊆ (ModelFactory.ofModel config doc owner).single.parameterNames := by
  obtain ⟨type, hparameters⟩ := parameters_ofModel config doc owner
  simp [FactoryFunction.parameterNames, ModelFactory.single, hparameters, h]

/-- The code for a field is a literal, or expands a relation in a factory that declares depth and
bound. -/
private theorem code_ofField? (supplied : String → Evaluation Unit) {owner : Model} {field : Field}
    {expr : MemberExpr} (hfield : field ∈ owner.fields)
    (hexpr : MemberExpr.ofField? config doc field = some expr) :
    expr.code.Expands (.ofDocument config doc supplied) ∧
      expr.code.used ⊆ (ModelFactory.ofModel config doc owner).single.parameterNames := by
  have hliteral {code : MemberCode} (h : code.isLiteral = true) :
      code.Expands (.ofDocument config doc supplied) ∧
        code.used ⊆ (ModelFactory.ofModel config doc owner).single.parameterNames :=
    ⟨.inl h, (used_of_isLiteral h).symm ▸ List.nil_subset _⟩
  unfold MemberExpr.ofField? at hexpr
  split at hexpr
  · obtain rfl := Option.some.inj hexpr
    exact hliteral rfl
  · split at hexpr <;> obtain rfl := Option.some.inj hexpr <;> exact hliteral rfl
  · rename_i hkind
    obtain rfl := Option.some.inj hexpr
    unfold RelationExpr.ofField
    cases htarget : doc.target? field with
    | none => exact hliteral rfl
    | some target =>
      dsimp only
      split
      · rename_i hcreate
        have hown := takesDepth_of_target hcreate hfield hkind htarget
        exact ⟨.inr ⟨_, _, _, rfl, isLiteral_code _,
          passesDown_ofField (Document.model?_name_of_target? htarget) _ _⟩,
          List.Subset.trans (used_expand _ _ _) (depth_subset_parameterNames hown)⟩
      · exact hliteral (isLiteral_code _)
  · cases hexpr

private theorem isScoped_single (owner : Model) :
    (ModelFactory.ofModel config doc owner).single.IsScoped := by
  intro name hname
  rw [body_single] at hname
  rcases List.mem_append.1 hname with hname | hname
  · obtain ⟨entry, hentry, hname⟩ := List.mem_flatMap.1 hname
    obtain ⟨field, hfield, hcode⟩ := List.mem_filterMap.1 hentry
    obtain ⟨expr, hexpr, rfl⟩ := Option.map_eq_some_iff.1 hcode
    exact (code_ofField? (fun _ => pure ()) hfield hexpr).2 hname
  · obtain rfl := List.mem_singleton.1 hname
    exact List.mem_cons_self

private theorem isScoped_batch (f : ModelFactory) : f.batch.IsScoped := by
  intro name hname
  rcases List.mem_append.1 hname with hname | hname
  · obtain rfl := List.mem_singleton.1 hname
    exact List.mem_cons_self
  · obtain ⟨operand, hoperand, hname⟩ := List.mem_flatMap.1 hname
    obtain ⟨p, hp, rfl⟩ := List.mem_map.1 hoperand
    obtain rfl := List.mem_singleton.1 hname
    exact List.mem_cons_of_mem _ (List.mem_map.2 ⟨p, hp, rfl⟩)

/-- The factories of a validated document expand relations exactly as the sampler does. The text of
the factories of each model is the print of two functions, which use no parameters but their own.
What a record holds for a field is a literal, or a call where the depth is below the bound handed
down or that bound capped; the call passes the next depth and that bound where the called function
declares depth and bound, and nothing where it does not. As long as code that the documentation
supplies comes to values, calling the factory of a model ends, and the records that the sampler draws
for the model have the shape of the tree that it ends in: the same relations expanded into records of
the same models, in lists of the same length, and the same empty lists, nulls and identifiers
elsewhere. -/
theorem factories_expand_as_sampler (config : GeneratorConfig) {doc : Document} {model : Model}
    {supplied : String → Evaluation Unit} (hvalid : doc.validate = .ok ())
    (hmodel : model ∈ doc.models) (hsupplied : SuppliesValues doc supplied) :
    let program := Program.ofDocument config doc supplied
    (∀ owner ∈ doc.models,
      let f := ModelFactory.ofModel config doc owner
      f.single ∈ program.functions ∧ f.batch ∈ program.functions ∧
      (Section.factory f).render = "\n".intercalate
        (f.aliasLines ++ f.single.lines ++ "" :: f.batch.lines ++ f.validatedLines) ∧
      f.single.IsScoped ∧ f.batch.IsScoped ∧
      ∃ members, f.single.body = .record members "overrides" ∧
        ∀ entry ∈ members, entry.2.Expands program) ∧
    ∃ tree levels, (∀ more, levels ≤ more →
        program.run more (factoryName model.name) [] = .ok (.record tree)) ∧
      ∀ sampler : Sampler, sampler.document = doc → sampler.config = config →
        sampler.batchSize = 2 → ∀ count s t records,
          (sampler.records model.name count).run s = (.ok records, t) →
            ∀ record ∈ records, record.shape = tree.shape := by
  intro program
  have hknown := ((Document.validate_eq_ok_iff doc).1 hvalid).model?_eq_some hmodel
  obtain ⟨tree, htree, hshape⟩ := builds hsupplied config model 0
    (config.depthFor model.name).toNat [] hknown (hands_nothing config doc model)
  refine ⟨fun owner howner => ?_, tree, _, htree, ?_⟩
  · refine ⟨List.mem_flatMap.2 ⟨owner, howner, List.mem_cons_self⟩,
      List.mem_flatMap.2 ⟨owner, howner, List.mem_cons_of_mem _ List.mem_cons_self⟩,
      ModelFactory.render_factory _, isScoped_single owner, isScoped_batch _,
      _, body_single config doc owner, fun entry hentry => ?_⟩
    obtain ⟨field, hfield, hcode⟩ := List.mem_filterMap.1 hentry
    obtain ⟨expr, hexpr, rfl⟩ := Option.map_eq_some_iff.1 hcode
    exact (code_ofField? supplied hfield hexpr).1
  · rintro sampler rfl rfl hsize count s t records hrun record hrecord
    have houtline := (sampler.yields_records hknown count
      (Sampler.yields_outline model 0 _) s t records hrun).2 record hrecord
    rw [houtline, hshape, Sampler.outliner, outliner, hsize]
    rfl

/-- Nodes with a text that the documentation supplies. -/
def labelledNode : Model where
  name := "Node"
  dbName := none
  fields := { Field.bare "label" .scalar "String" with documentation := some "@mock 'leaf'" } ::
    Sampler.node.fields
  documentation := none
  primaryKey := none
  uniqueFields := []

def labelledSampler : Sampler :=
  .ofConfig .standard ⟨[labelledNode], [], []⟩ Sampler.nodeSampler.config

/-- What a literal comes to, and that all other code stops. -/
def literalOnly (literal code : String) : Evaluation Unit :=
  if code = literal then pure () else throw (.stopped code)

theorem factories_expand_as_sampler_nodes :
    let program := Program.ofDocument labelledSampler.config labelledSampler.document
      (literalOnly "'leaf'")
    labelledSampler.document.validate = .ok () ∧ labelledNode ∈ labelledSampler.document.models ∧
    SuppliesValues labelledSampler.document (literalOnly "'leaf'") ∧
    ∃ tree levels,
      (∀ more, levels ≤ more → program.run more "createNodeMock" [] = .ok (.record tree)) ∧
      ∃ records t,
        (labelledSampler.records "Node" 1).run (SamplerState.ofSeed 0) = (.ok records, t) ∧
          records.length = 1 ∧ ∀ record ∈ records, record.shape = tree.shape := by
  intro program
  have hvalid : labelledSampler.document.validate = .ok () := by decide +kernel
  have hmodel : labelledNode ∈ labelledSampler.document.models := List.mem_singleton.2 rfl
  have hsupplied : SuppliesValues labelledSampler.document (literalOnly "'leaf'") := by
    unfold SuppliesValues
    decide +kernel
  obtain ⟨-, tree, levels, htree, hsame⟩ :=
    factories_expand_as_sampler labelledSampler.config hvalid hmodel hsupplied
  let drawn := (labelledSampler.records "Node" 1).run (SamplerState.ofSeed 0)
  have hone : drawn.1.toOption.map List.length = some 1 := by
    decide +kernel
  refine ⟨hvalid, hmodel, hsupplied, ?_⟩
  rcases hdrawn : drawn with ⟨_ | records, t⟩
  · rw [hdrawn] at hone
    cases hone
  · rw [hdrawn] at hone
    exact ⟨tree, levels, htree, records, t, hdrawn, Option.some.inj hone,
      hsame _ rfl rfl rfl 1 _ _ records hdrawn⟩

/-- A model with a field whose documentation calls the factory of the model. -/
def selfSupplied : Model :=
  .bare "User" [{ Field.bare "nick" .scalar "String" with
    isRequired := true
    documentation := some "@mock createUserMock()" }]

def selfSuppliedFactory : ModelFactory :=
  .ofModel .standard ⟨[selfSupplied], [], []⟩ selfSupplied

/-- The factory of one record, with that call read as a call. -/
def selfCalling : FactoryFunction :=
  { selfSuppliedFactory.single with
    body := .record [("nick", .call ⟨"createUserMock", []⟩)] "overrides" }

def selfCallingProgram : Program :=
  ⟨[selfCalling, selfSuppliedFactory.batch], fun _ => pure ()⟩

/-- A valid document, and functions that print exactly the text of its factories, of which the one of
one record calls itself without end: the call is supplied by the documentation of a field. -/
theorem supplied_call_unfinished :
    let f := selfSuppliedFactory
    Document.validate ⟨[selfSupplied], [], []⟩ = .ok () ∧
      (Section.factory f).render = "\n".intercalate
        (f.aliasLines ++ selfCalling.lines ++ "" :: f.batch.lines ++ f.validatedLines) ∧
      selfCallingProgram.declared (factoryName "User") = .ok selfCalling ∧
      ∀ levels, selfCallingProgram.run levels (factoryName "User") [] = .error .unfinished := by
  have hname : factoryName "User" = "createUserMock" := by decide +kernel
  have hdeclared : selfCallingProgram.declared "createUserMock" = pure selfCalling := by
    decide +kernel
  rw [hname]
  refine ⟨by decide +kernel, by decide +kernel, hdeclared, fun levels => ?_⟩
  induction levels with
  | zero => rfl
  | succ levels ih =>
    rw [Program.run_succ hdeclared]
    simp only [selfCalling, FactoryBody.evaluate, List.mapM_cons, evaluateEntry,
      MemberCode.evaluate, Invocation.evaluate, List.mapM_nil, pure_bind, ih]
    rfl

end Agreement

end SchemaMocks.TypeScript
