import SchemaMocks.Mock.Vocabulary
import SchemaMocks.Proofs.Sampling.Counting
import SchemaMocks.Proofs.Sampling.Present
import SchemaMocks.Proofs.Sampling.Uniqueness

set_option autoImplicit false
set_option relaxedAutoImplicit false

/-!
Numbers over whole samples. The values in a record stand in the order in which they are evaluated,
those of identifiers that stand alone among them. For a field that counts up these are the numbers
one, two, three and so on, over all calls and all levels of nesting, and none is left out.
-/

namespace SchemaMocks

/-- The model that a relation points at, by the names of its model and its field. -/
def Document.related? (doc : Document) (model field : String) : Option Model :=
  ((doc.model? model).bind (·.field? field)).bind doc.target?

section Leaves

variable (doc : Document)

mutual

/-- The values in a record in the order of evaluation, each with the names of the model and the
field that it is drawn for. -/
def MockRecord.leaves : MockRecord MockValue → List ((String × String) × MockValue)
  | .of model members => MockMember.leavesInEntries model members

/-- The values in a member that stands for a field of a model. -/
def MockMember.leaves (model field : String) :
    MockMember MockValue → List ((String × String) × MockValue)
  | .value v => [((model, field), v)]
  | .stub idField v =>
    ((doc.related? model field).map fun target => ((target.name, idField), v)).toList
  | .single record => record.leaves
  | .list records => MockMember.leavesInRecords records
  | .null | .emptyList => []

def MockMember.leavesInEntries (model : String) :
    List (String × MockMember MockValue) → List ((String × String) × MockValue)
  | [] => []
  | (field, member) :: rest => member.leaves model field ++ MockMember.leavesInEntries model rest

def MockMember.leavesInRecords :
    List (MockRecord MockValue) → List ((String × String) × MockValue)
  | [] => []
  | record :: rest => record.leaves ++ MockMember.leavesInRecords rest

end

/-- The values among some leaves that are drawn for a field of a model. -/
def drawnFor (model field : String) (leaves : List ((String × String) × MockValue)) :
    List MockValue :=
  leaves.filterMap fun leaf => if leaf.1 = (model, field) then some leaf.2 else none

/-- The values of a field in a record, in the order of evaluation. -/
def MockRecord.valuesOf (model field : String) (record : MockRecord MockValue) : List MockValue :=
  drawnFor model field (record.leaves doc)

private theorem drawnFor_append (model field : String)
    (first second : List ((String × String) × MockValue)) :
    drawnFor model field (first ++ second) =
      drawnFor model field first ++ drawnFor model field second :=
  List.filterMap_append

private theorem drawnFor_singleton (model field owner name : String) (v : MockValue) :
    drawnFor model field [((owner, name), v)] =
      if owner = model ∧ name = field then [v] else [] := by
  by_cases h : owner = model ∧ name = field
  · simp [drawnFor, h]
  · simp [drawnFor, h]

private theorem valuesOf_record (model field owner : String)
    (members : List (String × MockMember MockValue)) :
    (MockRecord.of owner members).valuesOf doc model field =
      members.flatMap fun entry => drawnFor model field (entry.2.leaves doc owner entry.1) := by
  rw [MockRecord.valuesOf, MockRecord.leaves]
  induction members with
  | nil => rfl
  | cons entry rest ih =>
    rw [MockMember.leavesInEntries, drawnFor_append, ih, List.flatMap_cons]

private theorem drawnFor_records (model field : String) (records : List (MockRecord MockValue)) :
    drawnFor model field (MockMember.leavesInRecords doc records) =
      records.flatMap (MockRecord.valuesOf doc model field) := by
  induction records with
  | nil => rfl
  | cons record rest ih =>
    rw [MockMember.leavesInRecords, drawnFor_append, ih, List.flatMap_cons]
    rfl

end Leaves

/-- Fields of validated documents that count up under a text of their own. -/
structure IsNumbered (doc : Document) (model : Model) (field : Field) : Prop where
  named : doc.WellNamed
  apart : ∀ m ∈ doc.models, ∀ f ∈ m.fields,
    UniqueLedger.fieldKey m.name f.name = UniqueLedger.fieldKey model.name field.name →
      m.name = model.name ∧ f.name = field.name
  known : model ∈ doc.models
  owned : field ∈ model.fields
  scalar : field.kind = .scalar
  counted : field.scalarSource = .default .autoincrement

section Names

variable {doc : Document} {model owner : Model} {field g : Field}

private theorem Document.WellNamed.related?_eq (h : doc.WellNamed) (howner : owner ∈ doc.models)
    (hg : g ∈ owner.fields) : doc.related? owner.name g.name = doc.target? g := by
  rw [Document.related?, h.model?_eq_some howner, Option.bind_some, h.field?_eq_some howner hg,
    Option.bind_some]

private theorem IsNumbered.key_ne (h : IsNumbered doc model field) (howner : owner ∈ doc.models)
    (hg : g ∈ owner.fields) (hnames : ¬(owner.name = model.name ∧ g.name = field.name)) :
    UniqueLedger.fieldKey owner.name g.name ≠ UniqueLedger.fieldKey model.name field.name :=
  fun hkey => hnames (h.apart owner howner g hg hkey)

end Names

private theorem ofValueDraw_bind {α β : Type} (draw : ValueDraw α) (next : α → ValueDraw β) :
    Sampling.ofValueDraw (draw >>= next) =
      Sampling.ofValueDraw draw >>= fun a => Sampling.ofValueDraw (next a) := by
  funext s
  change (Sampling.ofValueDraw (draw >>= next)).run s =
    (Sampling.ofValueDraw draw >>= fun a => Sampling.ofValueDraw (next a)).run s
  rw [bind_run, ofValueDraw_run, ofValueDraw_run, bind_run]
  rcases draw.run s.values with ⟨_ | a, t⟩
  · rfl
  · rfl

/-- A state in which nothing is drawn yet, with so many attempts at a new value. -/
def SamplerState.fresh (seed : UInt64) (attempts : UInt32) : SamplerState :=
  { SamplerState.ofSeed seed with ledger := UniqueLedger.empty.withMaxAttempts attempts }

namespace Sampler

variable {sampler : Sampler} {model owner : Model} {field g : Field} {key : String}

private theorem emits_scalarField_other (hkey : UniqueLedger.fieldKey owner.name g.name ≠ key) :
    Emits (counting key) (sampler.scalarField owner g) fun _ given => given = [] := by
  have hsingle : Keeps (leavingCounter key) (g.scalarSource.value sampler.profile owner g) :=
    MockSource.keeps_value sampler.profile owner g fun _ => hkey
  unfold scalarField
  refine (emits_leaving (keeps_notices _)).bind fun _ _ hnotices => ?_
  refine (emits_leaving (keeps_chance _)).bind fun null _ hnull => ?_
  rw [hnotices, hnull]
  split
  · exact emits_pure rfl
  · split
    · rename_i d _ _
      exact emits_leaving (d.keeps_listValue sampler.profile g.name g.scalar?)
    · exact emits_leaving (keeps_oneToThree hsingle)
    · exact emits_leaving (keeps_oneToThree hsingle)
    · split
      · exact emits_unique_other hkey hsingle
      · exact emits_leaving hsingle

private theorem emits_scalarField (hsource : field.scalarSource = .default .autoincrement) :
    Emits (counting (UniqueLedger.fieldKey model.name field.name))
      (sampler.scalarField model field) fun value given => given = [value] := by
  unfold scalarField
  refine (emits_leaving (keeps_notices _)).bind fun _ _ hnotices => ?_
  refine ((emits_leaving (keeps_chance _)).and (yields_ofValueDraw (yields_chance _))).bind
    fun null _ hnull => ?_
  obtain ⟨hgiven, hchance⟩ := hnull
  have hpresent : null = false := by
    simpa [hsource, MockSource.mayBeNull] using hchance
  rw [hnotices, hgiven, hpresent, if_neg Bool.false_ne_true]
  split
  · rename_i hdirective
    simp [hsource] at hdirective
  · rename_i hsemantic
    simp [hsource] at hsemantic
  · rename_i htype
    simp [hsource] at htype
  · rw [hsource]
    split
    · exact emits_unique_number sampler.profile rfl
    · exact emits_number sampler.profile rfl

section Records

variable (hfield : IsNumbered sampler.document model field)

include hfield

private theorem emits_stub (howner : owner ∈ sampler.document.models) :
    Emits (counting (UniqueLedger.fieldKey model.name field.name))
      (Sampling.ofValueDraw (sampler.stub owner)) fun member given =>
        ∀ place : String × String,
          sampler.document.related? place.1 place.2 = some owner →
            given = drawnFor model.name field.name
              (member.leaves sampler.document place.1 place.2) := by
  unfold stub
  cases hid : owner.idField? with
  | none => exact emits_pure fun _ _ => rfl
  | some id =>
    have howned : id ∈ owner.fields := List.mem_of_find?_eq_some hid
    have hvalue : Emits (counting (UniqueLedger.fieldKey model.name field.name))
        (Sampling.ofValueDraw (id.scalarSource.value sampler.profile owner id))
        fun value given =>
          given = drawnFor model.name field.name [((owner.name, id.name), value)] := by
      by_cases hnames : owner.name = model.name ∧ id.name = field.name
      · obtain ⟨rfl, rfl⟩ :=
          hfield.named.eq_of_names hfield.known hfield.owned howner howned hnames
        rw [hfield.counted]
        refine (emits_number sampler.profile rfl).mono fun value given hgiven => ?_
        rw [hgiven, drawnFor_singleton, if_pos ⟨rfl, rfl⟩]
      · have hkey := hfield.key_ne howner howned hnames
        refine (emits_leaving (MockSource.keeps_value sampler.profile owner id fun _ => hkey)).mono
          fun value given hgiven => ?_
        rw [hgiven, drawnFor_singleton, if_neg hnames]
    dsimp only
    rw [ofValueDraw_bind]
    refine (emits_leaving (keeps_notices _)).bind fun _ _ hnotices => ?_
    rw [hnotices, ofValueDraw_bind]
    refine hvalue.map fun value given hgiven place hplace => ?_
    rw [List.nil_append, hgiven, MockMember.leaves, hplace]
    rfl

variable {depth bound : UInt32} {expand : Expander depth bound}
  (hexpand : ∀ target next below h, target ∈ sampler.document.models →
    Emits (counting (UniqueLedger.fieldKey model.name field.name)) (expand target next below h)
      fun record given =>
        given = record.valuesOf sampler.document model.name field.name)
  (howner : owner ∈ sampler.document.models)

include hexpand howner

private theorem emits_relationField (hg : g ∈ owner.fields) :
    Emits (counting (UniqueLedger.fieldKey model.name field.name))
      (sampler.relationField expand g) fun member given =>
        given = drawnFor model.name field.name
          (member.leaves sampler.document owner.name g.name) := by
  unfold relationField
  split
  · exact emits_pure rfl
  · rename_i target htarget
    have hmem := (Document.mem_of_model?_eq_some htarget).1
    have hrelated : sampler.document.related? owner.name g.name = some target :=
      (hfield.named.related?_eq howner hg).trans htarget
    split
    · change Emits _ (Sampling.ofValueDraw (sampler.terminal g target)) _
      unfold terminal
      split
      · exact emits_pure rfl
      · split
        · exact (emits_stub hfield hmem).mono fun member given hgiven =>
            hgiven (owner.name, g.name) hrelated
        · exact emits_pure rfl
    · rename_i next below hnext
      have hdraw := hexpand target next below (sampler.nextLevel?_fewer hnext) hmem
      dsimp only
      split
      · refine (emits_mapM (List.range sampler.batchSize) fun _ _ => hdraw).map
          fun records given hgiven => ?_
        rw [hgiven, MockMember.leaves, drawnFor_records]
      · exact hdraw.map fun record given hgiven => hgiven

private theorem emits_member (hg : g ∈ owner.fields) :
    Emits (counting (UniqueLedger.fieldKey model.name field.name)) (sampler.member expand owner g)
      fun held given => given = (held.map fun member =>
        drawnFor model.name field.name
          (member.leaves sampler.document owner.name g.name)).getD [] := by
  unfold member
  split
  · by_cases hnames : owner.name = model.name ∧ g.name = field.name
    · obtain ⟨rfl, rfl⟩ := hfield.named.eq_of_names hfield.known hfield.owned howner hg hnames
      refine (emits_scalarField hfield.counted).map fun value given hgiven => ?_
      rw [hgiven, Option.map_some, Option.getD_some, MockMember.leaves, drawnFor_singleton,
        if_pos ⟨rfl, rfl⟩]
    · refine (emits_scalarField_other (hfield.key_ne howner hg hnames)).map
        fun value given hgiven => ?_
      rw [hgiven, Option.map_some, Option.getD_some, MockMember.leaves, drawnFor_singleton,
        if_neg hnames]
  · rename_i hkind
    have hnames : ¬(owner.name = model.name ∧ g.name = field.name) := by
      intro hnames
      obtain ⟨rfl, rfl⟩ := hfield.named.eq_of_names hfield.known hfield.owned howner hg hnames
      simp [hfield.scalar] at hkind
    refine (emits_leaving (sampler.keeps_enumField owner (hfield.key_ne howner hg hnames))).map
      fun value given hgiven => ?_
    rw [hgiven, Option.map_some, Option.getD_some, MockMember.leaves, drawnFor_singleton,
      if_neg hnames]
  · exact (emits_relationField hfield hexpand howner hg).map fun member given hgiven => hgiven
  · exact emits_pure rfl

private theorem emits_members (fields : List Field) (hfields : fields ⊆ owner.fields) :
    Emits (counting (UniqueLedger.fieldKey model.name field.name))
      (sampler.members expand owner fields) fun members given =>
        given = members.flatMap fun entry =>
          drawnFor model.name field.name (entry.2.leaves sampler.document owner.name entry.1) := by
  induction fields with
  | nil => exact emits_pure rfl
  | cons g rest ih =>
    obtain ⟨hg, hrest⟩ := List.cons_subset.1 hfields
    unfold members
    refine (emits_member hfield hexpand howner hg).bind ?_
    rintro (_ | member) first hfirst
    · rw [hfirst]
      exact ih hrest
    · refine (ih hrest).map fun members second hsecond => ?_
      rw [hfirst, hsecond, List.flatMap_cons]
      rfl

end Records

private theorem emits_record (hfield : IsNumbered sampler.document model field) (owner : Model)
    (depth bound : UInt32) (howner : owner ∈ sampler.document.models) :
    Emits (counting (UniqueLedger.fieldKey model.name field.name))
      (sampler.record owner depth bound) fun record given =>
        given = record.valuesOf sampler.document model.name field.name := by
  induction owner, depth, bound using record.induct sampler with
  | case1 owner depth bound ih =>
    rw [record]
    refine (emits_members hfield ih howner owner.fields (List.Subset.refl _)).map
      fun members given hgiven => ?_
    rw [hgiven, valuesOf_record]

private theorem emits_records (hfield : IsNumbered sampler.document model field) (name : String)
    (count : Nat) :
    Emits (counting (UniqueLedger.fieldKey model.name field.name)) (sampler.records name count)
      fun records given =>
        given = records.flatMap (MockRecord.valuesOf sampler.document model.name field.name) := by
  unfold records
  cases howner : sampler.document.model? name with
  | none => exact emits_throw fun s => ⟨Nat.le_refl _, fun hs _ => ⟨hs, fun _ => nofun⟩⟩
  | some owner =>
    refine (emits_leaving (keeps_notice _)).bind fun _ _ hnothing => ?_
    rw [hnothing]
    exact emits_mapM _ fun _ _ =>
      emits_record hfield owner 0 _ (Document.mem_of_model?_eq_some howner).1

/-- The state that calls for so many records of a model leave behind, one after the other. -/
def stateAfter (sampler : Sampler) (calls : List (String × Nat)) (s : SamplerState) :
    SamplerState :=
  calls.foldl (fun s call => ((sampler.sample call.1 call.2).run s).2) s

private theorem stateAfter_cons (sampler : Sampler) (call : String × Nat)
    (rest : List (String × Nat))
    (s : SamplerState) :
    sampler.stateAfter (call :: rest) s =
      sampler.stateAfter rest ((sampler.records call.1 call.2).run s).2 := by
  rw [stateAfter, List.foldl_cons, sample_run]
  rfl

/-- What came of a call shows some values of a field in their order; a failure shows none, but it is
not for want of a new value of the field. -/
def Shows (doc : Document) (model field : String) :
    Except MockFailure (List (MockRecord MockValue)) → List MockValue → Prop
  | .ok records, values => values = records.flatMap (MockRecord.valuesOf doc model field)
  | .error e, _ => e.IsNotFor (UniqueLedger.fieldKey model field)

section Calls

variable (hfield : IsNumbered sampler.document model field)

include hfield

private theorem records_count (name : String) (count : Nat) (s : SamplerState) :
    s.values.reached (UniqueLedger.fieldKey model.name field.name) ≤
        ((sampler.records name count).run s).2.values.reached
          (UniqueLedger.fieldKey model.name field.name) ∧
      (Tracked (UniqueLedger.fieldKey model.name field.name) s →
        ((sampler.records name count).run s).2.values.reached
            (UniqueLedger.fieldKey model.name field.name) < signedLimit →
          Tracked (UniqueLedger.fieldKey model.name field.name)
              ((sampler.records name count).run s).2 ∧
            Shows sampler.document model.name field.name ((sampler.records name count).run s).1
              (numbersAfter (s.values.reached (UniqueLedger.fieldKey model.name field.name))
                (((sampler.records name count).run s).2.values.reached
                  (UniqueLedger.fieldKey model.name field.name)))) := by
  have hemits := emits_records hfield name count
  rcases hrun : (sampler.records name count).run s with ⟨e | records, t⟩
  · exact hemits.fails hrun
  · obtain ⟨given, ⟨hle, hstep⟩, hgiven⟩ := hemits.gives hrun
    refine ⟨hle, fun hs hlimit => ?_⟩
    obtain ⟨ht, hnumbers⟩ := hstep hs hlimit
    exact ⟨ht, hnumbers.symm.trans hgiven⟩

private theorem reached_stateAfter (calls : List (String × Nat)) (s : SamplerState) :
    s.values.reached (UniqueLedger.fieldKey model.name field.name) ≤
      (sampler.stateAfter calls s).values.reached
        (UniqueLedger.fieldKey model.name field.name) := by
  induction calls generalizing s with
  | nil => exact Nat.le_refl _
  | cons call rest ih =>
    rw [stateAfter_cons]
    exact Nat.le_trans (records_count hfield call.1 call.2 s).1 (ih _)

private theorem drawn_counts (calls : List (String × Nat)) (s : SamplerState)
    (hs : Tracked (UniqueLedger.fieldKey model.name field.name) s)
    (hlimit : (sampler.stateAfter calls s).values.reached
      (UniqueLedger.fieldKey model.name field.name) < signedLimit) :
    ∃ values : List (List MockValue),
      values.flatten = numbersAfter
          (s.values.reached (UniqueLedger.fieldKey model.name field.name))
          ((sampler.stateAfter calls s).values.reached
            (UniqueLedger.fieldKey model.name field.name)) ∧
        List.Forall₂ (Shows sampler.document model.name field.name) (sampler.drawn calls s)
          values := by
  induction calls generalizing s with
  | nil => exact ⟨[], (numbersAfter_self _).symm, .nil⟩
  | cons call rest ih =>
    rw [stateAfter_cons] at hlimit ⊢
    obtain ⟨hle, hcall⟩ := records_count hfield call.1 call.2 s
    have hrest := reached_stateAfter hfield rest ((sampler.records call.1 call.2).run s).2
    obtain ⟨ht, hshows⟩ := hcall hs (Nat.lt_of_le_of_lt hrest hlimit)
    obtain ⟨values, hflatten, hvalues⟩ := ih _ ht hlimit
    refine ⟨_ :: values, ?_, .cons hshows hvalues⟩
    rw [List.flatten_cons, hflatten]
    exact numbersAfter_append hle hrest

end Calls

/-- Samples of a validated document number a field that counts up without a gap, where no two fields
share their text. Over any calls from a new state, the values drawn for the field are one, two,
three and so on up to where its counter gets, in the order of evaluation; and no call fails for want
of a new one. -/
theorem numbered_in_order (sampler : Sampler) {model : Model} {field : Field}
    (hvalid : sampler.document.validate = .ok ())
    (hapart : ∀ m ∈ sampler.document.models, ∀ f ∈ m.fields,
      ∀ m' ∈ sampler.document.models, ∀ f' ∈ m'.fields, (m.name, f.name) ≠ (m'.name, f'.name) →
        UniqueLedger.fieldKey m.name f.name ≠ UniqueLedger.fieldKey m'.name f'.name)
    (hmodel : model ∈ sampler.document.models) (hfield : field ∈ model.fields)
    (hkind : field.kind = .scalar) (hsource : field.scalarSource = .default .autoincrement)
    (seed : UInt64) (attempts : UInt32) (calls : List (String × Nat))
    (hfew : (sampler.stateAfter calls (.fresh seed attempts)).values.reached
      (UniqueLedger.fieldKey model.name field.name) < signedLimit) :
    sampler.sampled calls (.fresh seed attempts) =
        (sampler.drawn calls (.fresh seed attempts)).map
          (Except.map (List.map MockRecord.toJson)) ∧
      ∃ values : List (List MockValue),
        values.flatten = numbersAfter 0 ((sampler.stateAfter calls
          (.fresh seed attempts)).values.reached
            (UniqueLedger.fieldKey model.name field.name)) ∧
          List.Forall₂ (Shows sampler.document model.name field.name)
            (sampler.drawn calls (.fresh seed attempts)) values := by
  have hnumbered : IsNumbered sampler.document model field := by
    refine ⟨(Document.validate_eq_ok_iff _).1 hvalid, ?_, hmodel, hfield, hkind, hsource⟩
    intro m hm f hf hkey
    by_contra hnames
    refine hapart m hm f hf model hmodel field hfield ?_ hkey
    exact fun hpair => hnames (Prod.mk.inj hpair)
  have hfresh : Tracked (UniqueLedger.fieldKey model.name field.name) (.fresh seed attempts) := by
    refine ⟨UniqueLedger.one_le_attempts attempts, fun text htext => ?_⟩
    cases htext
  exact ⟨sampler.sampled_eq_map calls _, drawn_counts hnumbered calls _ hfresh hfew⟩

/-- A model whose records are numbered and must point at one more of them. -/
def ticket : Model where
  name := "Ticket"
  dbName := none
  fields := [{ Field.bare "next" .relation "Ticket" with isRequired := true }, itemNumber]
  documentation := none
  primaryKey := none
  uniqueFields := []

/-- Tickets on two levels, the lower ones with the number of a further ticket alone. -/
def ticketSampler : Sampler :=
  ofConfig .standard ⟨[ticket], [], []⟩ { GeneratorConfig.standard with relationMaxDepth := 1 }

theorem numbered_in_order_tickets :
    (ticketSampler.stateAfter [("Ticket", 1), ("Order", 1), ("Ticket", 1)]
        (.fresh 7 0)).values.reached "Ticket.number" = 6 ∧
      ∃ values : List (List MockValue),
        values.flatten = [1, 2, 3, 4, 5, 6].map MockValue.int ∧
          List.Forall₂ (Shows ticketSampler.document "Ticket" "number")
            (ticketSampler.drawn [("Ticket", 1), ("Order", 1), ("Ticket", 1)] (.fresh 7 0))
            values := by
  have hreached : (ticketSampler.stateAfter [("Ticket", 1), ("Order", 1), ("Ticket", 1)]
      (.fresh 7 0)).values.reached "Ticket.number" = 6 := by
    decide +kernel
  have hmodel : ticket ∈ ticketSampler.document.models := List.mem_singleton.2 rfl
  have hfield : itemNumber ∈ ticket.fields := List.mem_cons_of_mem _ (List.mem_singleton.2 rfl)
  have hvalues := (numbered_in_order ticketSampler (by decide +kernel) (by decide +kernel) hmodel
    hfield rfl (by decide +kernel) 7 0 [("Ticket", 1), ("Order", 1), ("Ticket", 1)]
    (by decide +kernel)).2
  refine ⟨hreached, ?_⟩
  change ∃ values : List (List MockValue), values.flatten = numbersAfter 0
    ((ticketSampler.stateAfter [("Ticket", 1), ("Order", 1), ("Ticket", 1)]
      (.fresh 7 0)).values.reached "Ticket.number") ∧ _ at hvalues
  rw [hreached] at hvalues
  exact hvalues

end Sampler

end SchemaMocks
