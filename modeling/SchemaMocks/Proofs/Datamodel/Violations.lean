import SchemaMocks.Proofs.Datamodel.Places
import SchemaMocks.Proofs.Datamodel.Validation
import SchemaMocks.Proofs.Text.Lines

set_option autoImplicit false
set_option relaxedAutoImplicit false

/-!
Which fault validation reports. Enums, models and fields are searched alike, one list at a time, and
what the search finds is what is wrong at the first place where something is. So validation accepts
the documents in which nothing is wrong anywhere, and there looking up a name finds its item.
-/

namespace SchemaMocks.Document

section Search

variable {α : Type} {check : List String → α → Option DocumentFault} {nameOf : α → String}
  {earlier : List String} {xs : List α} {fault : DocumentFault}

def firstFault? (check : List String → α → Option DocumentFault) (nameOf : α → String)
    (earlier : List String) : List α → Option DocumentFault
  | [] => none
  | x :: rest => (check earlier x).or (firstFault? check nameOf (nameOf x :: earlier) rest)

def faultWithin? (check : List String → α → Option DocumentFault) (nameOf : α → String)
    (earlier : List String) (xs : List α) (i : Nat) : Option DocumentFault :=
  xs[i]?.bind (check (((xs.take i).map nameOf).reverse ++ earlier))

private theorem faultWithin?_succ (x : α) (i : Nat) :
    faultWithin? check nameOf earlier (x :: xs) (i + 1) =
    faultWithin? check nameOf (nameOf x :: earlier) xs i := by
  simp [faultWithin?]

private theorem faultWithin?_or (more : α → Option DocumentFault) (i : Nat) :
    faultWithin? (fun earlier x => (check earlier x).or (more x)) nameOf earlier xs i =
      (faultWithin? check nameOf earlier xs i).or (xs[i]?.bind more) := by
  unfold faultWithin?
  cases xs[i]? <;> rfl

private theorem firstFault?_eq_none (h : firstFault? check nameOf earlier xs = none) (i : Nat) :
    faultWithin? check nameOf earlier xs i = none := by
  induction xs generalizing earlier i with
  | nil => rfl
  | cons x rest ih =>
    obtain ⟨hx, hrest⟩ := Option.or_eq_none_iff.1 h
    cases i with
    | zero => exact hx
    | succ i => rw [faultWithin?_succ, ih hrest]

private theorem firstFault?_eq_some (h : firstFault? check nameOf earlier xs = some fault) :
    ∃ i, faultWithin? check nameOf earlier xs i = some fault ∧
      ∀ j < i, faultWithin? check nameOf earlier xs j = none := by
  induction xs generalizing earlier with
  | nil => cases h
  | cons x rest ih =>
    cases hx : check earlier x with
    | some found =>
      rw [firstFault?, hx] at h
      exact ⟨0, hx.trans h, fun j hj => absurd hj (Nat.not_lt_zero j)⟩
    | none =>
      rw [firstFault?, hx] at h
      obtain ⟨i, hi, hbefore⟩ := ih h
      refine ⟨i + 1, by rw [faultWithin?_succ, hi], fun j hj => ?_⟩
      cases j with
      | zero => exact hx
      | succ j => rw [faultWithin?_succ, hbefore j (Nat.lt_of_succ_lt_succ hj)]

private theorem enumsFault?_eq (earlier : List String) (enums : List EnumType) :
    enumsFault? earlier enums =
      firstFault? (fun earlier e => enumFault? earlier e.name) (·.name) earlier enums := by
  induction enums generalizing earlier with
  | nil => rfl
  | cons e rest ih => rw [enumsFault?, firstFault?, ih, Option.orElse_eq_or]

private theorem fieldsFault?_eq (model : String) (earlier : List String) (fields : List Field) :
    fieldsFault? model earlier fields =
      firstFault? (fun earlier f => fieldFault? model earlier f.name) (·.name) earlier fields := by
  induction fields generalizing earlier with
  | nil => rfl
  | cons f rest ih => rw [fieldsFault?, firstFault?, ih, Option.orElse_eq_or]

private theorem modelsFault?_eq (enums earlier : List String) (models : List Model) :
    modelsFault? enums earlier models =
      firstFault? (fun earlier m => (modelFault? enums earlier m.name).or
        (fieldsFault? m.name [] m.fields)) (·.name) earlier models := by
  induction models generalizing earlier with
  | nil => rfl
  | cons m rest ih => simp only [modelsFault?, firstFault?, ih, Option.orElse_eq_or]

end Search

section Checks

def plainFault? (item : NamedItem) (earlier : List String) : Option DocumentFault :=
  if Text.isBlankText item.name then some item.blank
  else if item.name ∈ earlier then some item.repeated
  else none

def sharedFault? (doc : Document) (item : NamedItem) : Place → Option DocumentFault
  | .model _ =>
    if item.name ∈ doc.enums.map (·.name) then some (.sharedName item.name) else none
  | _ => none

def namesBefore (doc : Document) : Place → List String
  | .enum i => ((doc.enums.take i).map (·.name)).reverse
  | .model i => ((doc.models.take i).map (·.name)).reverse
  | .field n i => ((((doc.models[n]?).elim [] (·.fields)).take i).map (·.name)).reverse

def faultAt? (doc : Document) (place : Place) : Option DocumentFault :=
  (doc.itemAt? place).bind fun item =>
    (plainFault? item (doc.namesBefore place)).or (doc.sharedFault? item place)

variable {doc : Document} {place : Place} {item : NamedItem} {fault : DocumentFault}

private theorem mem_names_take {α : Type} {nameOf : α → String} {xs : List α} {i : Nat}
    {name : String} :
    name ∈ ((xs.take i).map nameOf).reverse ↔ ∃ j < i, ∃ x, xs[j]? = some x ∧ nameOf x = name := by
  rw [List.mem_reverse, List.mem_map]
  constructor
  · rintro ⟨x, hx, rfl⟩
    obtain ⟨j, hj, rfl⟩ := List.mem_take_iff_getElem.1 hx
    exact ⟨j, by omega, _, List.getElem?_eq_getElem (by omega), rfl⟩
  · rintro ⟨j, hj, x, hx, rfl⟩
    obtain ⟨hlength, rfl⟩ := List.getElem?_eq_some_iff.1 hx
    exact ⟨_, List.mem_take_iff_getElem.2 ⟨j, by omega, rfl⟩, rfl⟩

private theorem mem_namesBefore {name : String} : name ∈ doc.namesBefore place ↔
    ∃ earlier other, earlier.Precedes place ∧ doc.itemAt? earlier = some other ∧
      other.name = name := by
  cases place with
  | enum i =>
    rw [namesBefore, mem_names_take]
    constructor
    · rintro ⟨j, hj, e, he, rfl⟩
      exact ⟨.enum j, e.item, .enums hj, by rw [itemAt?, he]; rfl, rfl⟩
    · rintro ⟨earlier, other, hprecedes, hother, rfl⟩
      cases hprecedes with
      | enums hj =>
        obtain ⟨e, he, rfl⟩ := Option.map_eq_some_iff.1 hother
        exact ⟨_, hj, e, he, rfl⟩
  | model i =>
    rw [namesBefore, mem_names_take]
    constructor
    · rintro ⟨j, hj, m, hm, rfl⟩
      exact ⟨.model j, m.item, .models hj, by rw [itemAt?, hm]; rfl, rfl⟩
    · rintro ⟨earlier, other, hprecedes, hother, rfl⟩
      cases hprecedes with
      | models hj =>
        obtain ⟨m, hm, rfl⟩ := Option.map_eq_some_iff.1 hother
        exact ⟨_, hj, m, hm, rfl⟩
  | field n i =>
    rw [namesBefore, mem_names_take]
    constructor
    · rintro ⟨j, hj, f, hf, rfl⟩
      cases hm : doc.models[n]? with
      | none =>
        rw [hm] at hf
        cases hf
      | some m =>
        rw [hm] at hf
        refine ⟨.field n j, m.fieldItem f, .fields hj, ?_, rfl⟩
        rw [itemAt?, hm]
        exact congrArg (Option.map m.fieldItem) hf
    · rintro ⟨earlier, other, hprecedes, hother, rfl⟩
      cases hprecedes with
      | fields hj =>
        obtain ⟨m, hm, hother⟩ := Option.bind_eq_some_iff.1 hother
        obtain ⟨f, hf, rfl⟩ := Option.map_eq_some_iff.1 hother
        exact ⟨_, hj, f, by rw [hm]; exact hf, rfl⟩

private theorem mem_enumNames {name : String} : name ∈ doc.enums.map (·.name) ↔
    ∃ j other, doc.itemAt? (.enum j) = some other ∧ other.name = name := by
  rw [List.mem_map]
  constructor
  · rintro ⟨e, he, rfl⟩
    obtain ⟨j, hj⟩ := List.mem_iff_getElem?.1 he
    exact ⟨j, e.item, by rw [itemAt?, hj]; rfl, rfl⟩
  · rintro ⟨j, other, hother, rfl⟩
    obtain ⟨e, he, rfl⟩ := Option.map_eq_some_iff.1 hother
    exact ⟨e, List.mem_of_getElem? he, rfl⟩

private theorem violates_of_plainFault? (hitem : doc.itemAt? place = some item)
    (h : plainFault? item (doc.namesBefore place) = some fault) : doc.Violates place fault := by
  unfold plainFault? at h
  split_ifs at h with hblank hbefore
  · obtain rfl := Option.some.inj h
    exact .blank hitem (Text.isBlankText_iff.1 hblank)
  · obtain rfl := Option.some.inj h
    obtain ⟨earlier, other, hprecedes, hother, hname⟩ := mem_namesBefore.1 hbefore
    exact .repeated hitem hprecedes hother hname

private theorem violates_of_sharedFault? (hitem : doc.itemAt? place = some item)
    (h : doc.sharedFault? item place = some fault) : doc.Violates place fault := by
  cases place with
  | enum i => cases h
  | field n i => cases h
  | model i =>
    obtain ⟨hshared, hfault⟩ := Option.ite_none_right_eq_some.1 h
    obtain rfl := Option.some.inj hfault
    obtain ⟨j, other, hother, hname⟩ := mem_enumNames.1 hshared
    exact .shared hitem hother hname

private theorem violates_of_faultAt? (h : doc.faultAt? place = some fault) :
    doc.Violates place fault := by
  obtain ⟨item, hitem, h⟩ := Option.bind_eq_some_iff.1 h
  rcases Option.or_eq_some_iff.1 h with hplain | ⟨-, hshared⟩
  · exact violates_of_plainFault? hitem hplain
  · exact violates_of_sharedFault? hitem hshared

private theorem not_violates_of_faultAt? (h : doc.faultAt? place = none) :
    ¬doc.Violates place fault := by
  have hpassed {item : NamedItem} (hitem : doc.itemAt? place = some item) :
      plainFault? item (doc.namesBefore place) = none ∧ doc.sharedFault? item place = none := by
    rw [faultAt?, hitem, Option.bind_some] at h
    exact Option.or_eq_none_iff.1 h
  intro hviolates
  cases hviolates with
  | blank hitem hblank =>
    have hplain := (hpassed hitem).1
    rw [plainFault?, if_pos (Text.isBlankText_iff.2 hblank)] at hplain
    cases hplain
  | repeated hitem hearlier hother hname =>
    have hplain := (hpassed hitem).1
    unfold plainFault? at hplain
    split_ifs at hplain with hblank hbefore
    exact hbefore (mem_namesBefore.2 ⟨_, _, hearlier, hother, hname⟩)
  | shared hitem hother hname =>
    have hshared := (hpassed hitem).2
    rw [sharedFault?, if_pos (mem_enumNames.2 ⟨_, _, hother, hname⟩)] at hshared
    cases hshared

end Checks

section Outcome

variable {doc : Document} {fault : DocumentFault}

private theorem faultAt?_enum (doc : Document) (i : Nat) : doc.faultAt? (.enum i) =
    faultWithin? (fun earlier e => enumFault? earlier e.name) (·.name) [] doc.enums i := by
  rw [faultAt?, itemAt?, faultWithin?, namesBefore, List.append_nil]
  simp only [sharedFault?, Option.or_none, Option.bind_map]
  rfl

private theorem modelFault?_eq (enums earlier : List String) (m : Model) :
    modelFault? enums earlier m.name = (plainFault? m.item earlier).or
      (if m.name ∈ enums then some (.sharedName m.name) else none) := by
  by_cases hblank : Text.isBlankText m.name = true
  · simp [modelFault?, plainFault?, Model.item, hblank]
  · by_cases hbefore : m.name ∈ earlier <;>
      simp [modelFault?, plainFault?, Model.item, hblank, hbefore]

private theorem faultAt?_model (doc : Document) (i : Nat) : doc.faultAt? (.model i) =
    faultWithin? (fun earlier m => modelFault? (doc.enums.map (·.name)) earlier m.name) (·.name) []
      doc.models i := by
  rw [faultAt?, itemAt?, faultWithin?, namesBefore, List.append_nil, Option.bind_map]
  refine congrArg _ (funext fun m => ?_)
  rw [modelFault?_eq]
  rfl

private theorem faultAt?_field {n : Nat} {m : Model} (hmodel : doc.models[n]? = some m) (i : Nat) :
    doc.faultAt? (.field n i) =
      faultWithin? (fun earlier f => fieldFault? m.name earlier f.name) (·.name) [] m.fields i := by
  rw [faultAt?, itemAt?, faultWithin?, namesBefore, List.append_nil, hmodel]
  simp only [sharedFault?, Option.or_none, Option.bind_some, Option.bind_map]
  rfl

private theorem firstFault?_models_at (doc : Document) (i : Nat) :
    faultWithin? (fun earlier m => (modelFault? (doc.enums.map (·.name)) earlier m.name).or
        (fieldsFault? m.name [] m.fields)) (·.name) [] doc.models i =
      (doc.faultAt? (.model i)).or
        (doc.models[i]?.bind fun m => fieldsFault? m.name [] m.fields) := by
  rw [faultWithin?_or, faultAt?_model]

private theorem faultAt?_field_of_none {n : Nat}
    (h : (doc.models[n]?.bind fun m => fieldsFault? m.name [] m.fields) = none) (i : Nat) :
    doc.faultAt? (.field n i) = none := by
  cases hmodel : doc.models[n]? with
  | none => rw [faultAt?, itemAt?, hmodel, Option.bind_none, Option.bind_none]
  | some m =>
    rw [hmodel, Option.bind_some, fieldsFault?_eq] at h
    rw [faultAt?_field hmodel, firstFault?_eq_none h]

private theorem faultAt?_of_fault?_eq_none (h : doc.fault? = none) (place : Place) :
    doc.faultAt? place = none := by
  rw [fault?, Option.orElse_eq_or, Option.or_eq_none_iff, enumsFault?_eq, modelsFault?_eq] at h
  obtain ⟨henums, hmodels⟩ := h
  have hmodel (n : Nat) := Option.or_eq_none_iff.1
    ((doc.firstFault?_models_at n).symm.trans (firstFault?_eq_none hmodels n))
  cases place with
  | enum i => rw [faultAt?_enum, firstFault?_eq_none henums]
  | model i => exact (hmodel i).1
  | field n i => exact faultAt?_field_of_none (hmodel n).2 i

private theorem faultAt?_of_fault?_eq_some (h : doc.fault? = some fault) : ∃ place,
    doc.faultAt? place = some fault ∧
      ∀ earlier : Place, earlier.Before place → doc.faultAt? earlier = none := by
  rw [fault?, Option.orElse_eq_or, Option.or_eq_some_iff, enumsFault?_eq, modelsFault?_eq] at h
  rcases h with henums | ⟨henums, hmodels⟩
  · obtain ⟨i, hi, hbefore⟩ := firstFault?_eq_some henums
    refine ⟨.enum i, by rw [faultAt?_enum, hi], fun earlier hearlier => ?_⟩
    cases hearlier with
    | enums hj => rw [faultAt?_enum, hbefore _ hj]
  · obtain ⟨n, hn, hbefore⟩ := firstFault?_eq_some hmodels
    have henum (i : Nat) : doc.faultAt? (.enum i) = none := by
      rw [faultAt?_enum, firstFault?_eq_none henums]
    have hmodel {j : Nat} (hj : j < n) := Option.or_eq_none_iff.1
      ((doc.firstFault?_models_at j).symm.trans (hbefore j hj))
    rw [firstFault?_models_at, Option.or_eq_some_iff] at hn
    rcases hn with hname | ⟨hname, hfields⟩
    · refine ⟨.model n, hname, fun earlier hearlier => ?_⟩
      cases hearlier with
      | enumModel => exact henum _
      | models hj => exact (hmodel hj).1
      | fieldModel hj => exact faultAt?_field_of_none (hmodel hj).2 _
    · obtain ⟨m, hm, hfields⟩ := Option.bind_eq_some_iff.1 hfields
      rw [fieldsFault?_eq] at hfields
      obtain ⟨i, hi, hfieldsBefore⟩ := firstFault?_eq_some hfields
      refine ⟨.field n i, by rw [faultAt?_field hm, hi], fun earlier hearlier => ?_⟩
      cases hearlier with
      | enumField => exact henum _
      | modelField hj =>
        rcases Nat.lt_or_eq_of_le hj with hlt | rfl
        · exact (hmodel hlt).1
        · exact hname
      | fieldsApart hj => exact faultAt?_field_of_none (hmodel hj).2 _
      | fields hj => rw [faultAt?_field hm, hfieldsBefore _ hj]

private theorem firstViolation_of_fault? (h : doc.fault? = some fault) :
    doc.FirstViolation fault := by
  obtain ⟨place, hplace, hbefore⟩ := faultAt?_of_fault?_eq_some h
  exact ⟨place, violates_of_faultAt? hplace,
    fun earlier hearlier _ => not_violates_of_faultAt? (hbefore earlier hearlier)⟩

private theorem validate_eq_error_iff (doc : Document) (fault : DocumentFault) :
    doc.validate = .error fault ↔ doc.FirstViolation fault := by
  have hvalidate : doc.validate = .error fault ↔ doc.fault? = some fault := by
    rw [validate]
    split <;> simp_all
  rw [hvalidate]
  constructor
  · exact firstViolation_of_fault?
  · intro hfirst
    cases hfault : doc.fault? with
    | none =>
      obtain ⟨place, hviolates, -⟩ := hfirst
      exact absurd hviolates (not_violates_of_faultAt? (faultAt?_of_fault?_eq_none hfault place))
    | some found => rw [(firstViolation_of_fault? hfault).unique hfirst]

end Outcome

private theorem ownNames_iff {names : List String} :
    OwnNames [] names ↔ (∀ name ∈ names, Text.trimmed name ≠ "") ∧ names.Nodup := by
  have hvisible (name : String) : Text.isBlankText name = false ↔ Text.trimmed name ≠ "" := by
    rw [← Bool.not_eq_true, Text.isBlankText_iff]
  constructor
  · rintro ⟨visible, nodup, -⟩
    exact ⟨fun name hname => (hvisible name).1 (visible name hname), nodup⟩
  · rintro ⟨visible, nodup⟩
    exact ⟨fun name hname => (hvisible name).2 (visible name hname), nodup, by simp⟩

/-- Validation accepts a document exactly if no name is blank after trimming, names of enums and of
models are not repeated, no model shares its name with an enum, and no name is repeated among the
fields of a model. Else it reports what is wrong at the first place where something is. In an
accepted document looking up the name of an item finds the item. -/
theorem validate_names (doc : Document) :
    (doc.validate = .ok () ↔
      ((∀ e ∈ doc.enums, Text.trimmed e.name ≠ "") ∧
          ∀ m ∈ doc.models, Text.trimmed m.name ≠ "" ∧ ∀ f ∈ m.fields, Text.trimmed f.name ≠ "") ∧
        (doc.enums.map (·.name)).Nodup ∧ (doc.models.map (·.name)).Nodup ∧
        (∀ m ∈ doc.models, ∀ e ∈ doc.enums, m.name ≠ e.name) ∧
        ∀ m ∈ doc.models, (m.fields.map (·.name)).Nodup) ∧
      (∀ fault, doc.validate = .error fault ↔ doc.FirstViolation fault) ∧
      (doc.validate = .ok () →
        (∀ e ∈ doc.enums, doc.enum? e.name = some e) ∧
        ∀ m ∈ doc.models, doc.model? m.name = some m ∧
          ∀ f ∈ m.fields, m.field? f.name = some f) := by
  refine ⟨?_, validate_eq_error_iff doc, fun hvalid => ?_⟩
  · rw [validate_eq_ok_iff]
    constructor
    · intro h
      obtain ⟨henums, hdistinctEnums⟩ := ownNames_iff.1 h.enums
      obtain ⟨hmodels, hdistinctModels⟩ := ownNames_iff.1 h.models
      have hfields (m : Model) (hm : m ∈ doc.models) := ownNames_iff.1 (h.fields m hm)
      simp only [List.forall_mem_map] at henums hmodels hfields
      refine ⟨⟨henums, fun m hm => ⟨hmodels m hm, (hfields m hm).1⟩⟩, hdistinctEnums,
        hdistinctModels, fun m hm e he hname => ?_, fun m hm => (hfields m hm).2⟩
      exact h.apart m hm (hname ▸ List.mem_map_of_mem he)
    · rintro ⟨⟨henums, hmodels⟩, hdistinctEnums, hdistinctModels, hapart, hdistinctFields⟩
      refine ⟨ownNames_iff.2 ⟨List.forall_mem_map.2 henums, hdistinctEnums⟩,
        ownNames_iff.2 ⟨List.forall_mem_map.2 fun m hm => (hmodels m hm).1, hdistinctModels⟩,
        fun m hm hname => ?_, fun m hm =>
        ownNames_iff.2 ⟨List.forall_mem_map.2 (hmodels m hm).2, hdistinctFields m hm⟩⟩
      obtain ⟨e, he, hshared⟩ := List.mem_map.1 hname
      exact hapart m hm e he hshared.symm
  · have hnamed := (validate_eq_ok_iff doc).1 hvalid
    exact ⟨fun e he => hnamed.enum?_eq_some he, fun m hm =>
      ⟨hnamed.model?_eq_some hm, fun f hf => hnamed.field?_eq_some hm hf⟩⟩

/-- A blank name of a field comes before a model that has the name of an enum. -/
theorem validate_names_roles :
    let role : EnumType := ⟨"Role", [], none, none⟩
    let id := Field.bare "id" .scalar "Int"
    let user := Model.bare "User" [id]
    let spaced := Model.bare "User" [id, Field.bare "\u3000" .scalar "Int"]
    (⟨[user], [role], []⟩ : Document).validate = .ok () ∧
      (⟨[user], [role], []⟩ : Document).model? "User" = some user ∧
      (⟨[spaced, Model.bare "Role" []], [role], []⟩ : Document).FirstViolation
        (.blankField "User") := by
  intro role id user spaced
  have hvalid : (⟨[user], [role], []⟩ : Document).validate = .ok () := by decide +kernel
  refine ⟨hvalid, ?_, ?_⟩
  · obtain ⟨-, -, hfound⟩ := validate_names ⟨[user], [role], []⟩
    exact ((hfound hvalid).2 user List.mem_cons_self).1
  · obtain ⟨-, herror, -⟩ := validate_names ⟨[spaced, Model.bare "Role" []], [role], []⟩
    exact (herror _).1 (by decide +kernel)

end SchemaMocks.Document
