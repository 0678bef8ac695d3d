import SchemaMocks.Proofs.Sampling.Expansion

set_option autoImplicit false
set_option relaxedAutoImplicit false

/-!
The outline of a record: which relations are expanded, into records of which model, in which number,
and where a list is empty, a relation is null or an identifier stands alone. The values do not
matter, and the outline of what is drawn depends on no draw.
-/

namespace SchemaMocks

section Shape

variable {ν : Type}

mutual

/-- A record without its values. -/
def MockRecord.shape : MockRecord ν → MockRecord Unit
  | .of model members => .of model (MockMember.shapeOfEntries members)

def MockMember.shape : MockMember ν → MockMember Unit
  | .value _ => .value ()
  | .null => .null
  | .emptyList => .emptyList
  | .stub idField _ => .stub idField ()
  | .single record => .single record.shape
  | .list records => .list (MockMember.shapeOfRecords records)

def MockMember.shapeOfEntries : List (String × MockMember ν) → List (String × MockMember Unit)
  | [] => []
  | (name, member) :: rest => (name, member.shape) :: MockMember.shapeOfEntries rest

def MockMember.shapeOfRecords : List (MockRecord ν) → List (MockRecord Unit)
  | [] => []
  | record :: rest => record.shape :: MockMember.shapeOfRecords rest

end

private theorem shapeOfEntries_eq_map (members : List (String × MockMember ν)) :
    MockMember.shapeOfEntries members = members.map fun entry => (entry.1, entry.2.shape) := by
  induction members with
  | nil => rfl
  | cons entry rest ih => rw [MockMember.shapeOfEntries, ih, List.map_cons]

theorem shapeOfRecords_eq_map (records : List (MockRecord ν)) :
    MockMember.shapeOfRecords records = records.map MockRecord.shape := by
  induction records with
  | nil => rfl
  | cons record rest ih => rw [MockMember.shapeOfRecords, ih, List.map_cons]

private theorem shapeOfRecords_eq_replicate {records : List (MockRecord ν)}
    {shape : MockRecord Unit}
    (h : ∀ record ∈ records, record.shape = shape) :
    MockMember.shapeOfRecords records = List.replicate records.length shape := by
  rw [shapeOfRecords_eq_map, List.eq_replicate_iff, List.length_map, List.forall_mem_map]
  exact ⟨rfl, h⟩

end Shape

structure Outliner where
  document : Document
  config : GeneratorConfig
  listLength : Nat

namespace Outliner

variable (outliner : Outliner)

def terminal (field : Field) (target : Model) : MockMember Unit :=
  if field.isList then .emptyList
  else if field.isRequired then (target.idField?.map fun id => .stub id.name ()).getD .null
  else .null

mutual

def record (model : Model) (depth bound : Nat) : MockRecord Unit :=
  .of model.name ((Sampler.mocked model.fields).map fun field =>
    (field.name, member field depth bound))
termination_by (bound - depth, 1)

/-- The outline of what a record at a depth under a bound holds for a field. -/
def member (field : Field) (depth bound : Nat) : MockMember Unit :=
  if field.kind ≠ .relation then .value ()
  else
    match outliner.document.target? field with
    | none => .null
    | some target =>
      if _h : outliner.config.createRelationMocks = true ∧ depth < Sampler.limit field bound then
        let inner := record target (depth + 1) (Sampler.limit field bound)
        if field.isList then .list (List.replicate outliner.listLength inner) else .single inner
      else terminal field target
termination_by (bound - depth, 0)
decreasing_by
  have := Sampler.limit_le field bound
  omega

end

variable {outliner : Outliner} {field : Field} {target : Model} {depth bound : Nat}

theorem member_value (hkind : field.kind ≠ .relation) :
    outliner.member field depth bound = .value () := by
  rw [member, if_pos hkind]

theorem member_unknown (hkind : field.kind = .relation)
    (htarget : outliner.document.target? field = none) :
    outliner.member field depth bound = .null := by
  rw [member, if_neg (not_not.2 hkind), htarget]

theorem member_terminal (hkind : field.kind = .relation)
    (htarget : outliner.document.target? field = some target)
    (hexpands : ¬(outliner.config.createRelationMocks = true ∧ depth < Sampler.limit field bound)) :
    outliner.member field depth bound = terminal field target := by
  rw [member, if_neg (not_not.2 hkind)]
  simp only [htarget, dif_neg hexpands]

theorem member_expanded (hkind : field.kind = .relation)
    (htarget : outliner.document.target? field = some target)
    (hexpands : outliner.config.createRelationMocks = true ∧ depth < Sampler.limit field bound) :
    outliner.member field depth bound =
      let inner := outliner.record target (depth + 1) (Sampler.limit field bound)
      if field.isList then .list (List.replicate outliner.listLength inner) else .single inner := by
  rw [member, if_neg (not_not.2 hkind)]
  simp only [htarget, dif_pos hexpands]

end Outliner

namespace Sampler

variable (sampler : Sampler)

def outliner : Outliner :=
  ⟨sampler.document, sampler.config, sampler.batchSize⟩

variable {sampler}

private theorem shape_of_isTerminal {field : Field} {target : Model} {member : MockMember MockValue}
    (h : IsTerminal field target member) : member.shape = Outliner.terminal field target := by
  cases h with
  | emptyList hlist => simp [Outliner.terminal, hlist, MockMember.shape]
  | optional hlist hrequired => simp [Outliner.terminal, hlist, hrequired, MockMember.shape]
  | noId hlist hrequired hid => simp [Outliner.terminal, hlist, hrequired, hid, MockMember.shape]
  | stub hlist hrequired hid v =>
    simp [Outliner.terminal, hlist, hrequired, hid, MockMember.shape]

private theorem shape_of_isMember {field : Field} {member : MockMember MockValue}
    {depth bound : UInt32}
    (h : sampler.IsMember (fun target next below record =>
      record.shape = sampler.outliner.record target next.toNat below.toNat)
      depth bound field member) :
    member.shape = sampler.outliner.member field depth.toNat bound.toNat := by
  cases h with
  | value hkind v =>
    rw [Outliner.member_value (by rcases hkind with h | h <;> simp [h]), MockMember.shape]
  | unknown hkind htarget => rw [Outliner.member_unknown hkind htarget, MockMember.shape]
  | terminal hkind htarget hnext hend =>
    rw [Outliner.member_terminal hkind htarget (nextLevel?_eq_none hnext), shape_of_isTerminal hend]
  | single hkind htarget hnext hlist hrecord =>
    obtain ⟨hexpands, hnext, hbelow⟩ := isExpandable_of_nextLevel? hnext
    rw [Outliner.member_expanded hkind htarget hexpands, MockMember.shape, hrecord, hnext, hbelow]
    simp [hlist]
  | list hkind htarget hnext hlist hlength hrecords =>
    obtain ⟨hexpands, hnext, hbelow⟩ := isExpandable_of_nextLevel? hnext
    rw [hnext, hbelow] at hrecords
    rw [Outliner.member_expanded hkind htarget hexpands, MockMember.shape,
      shapeOfRecords_eq_replicate hrecords, hlength]
    simp [hlist, outliner]

/-- Whatever is drawn, a record has the outline of its model at its depth and bound. -/
theorem yields_outline (model : Model) (depth bound : UInt32) :
    Yields (sampler.record model depth bound) fun record =>
      record.shape = sampler.outliner.record model depth.toNat bound.toNat := by
  let P (model : Model) (depth bound : UInt32) (record : MockRecord MockValue) : Prop :=
    record.shape = sampler.outliner.record model depth.toNat bound.toNat
  refine sampler.yields_record (P := P) ?_ model depth bound
  intro model depth bound members hmembers
  simp only [P]
  rw [MockRecord.shape, Outliner.record, shapeOfEntries_eq_map]
  congr 1
  generalize mocked model.fields = fields at hmembers
  induction hmembers with
  | nil => rfl
  | cons hentry _ ih =>
    obtain ⟨hname, hmember⟩ := hentry
    rw [List.map_cons, List.map_cons, ih, ← hname, shape_of_isMember hmember]

end Sampler

end SchemaMocks
