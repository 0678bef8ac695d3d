import SchemaMocks.Proofs.Datamodel.Default
import SchemaMocks.Proofs.Json.Fuller

set_option autoImplicit false
set_option relaxedAutoImplicit false

/-!
Documents as JSON values and back. What is read from some value is read again from its own encoding;
and a value may write its records out more fully, with keys that they do not have and with the
values that absent keys stand for, without being read differently.
-/

namespace SchemaMocks

open Fields

/-! Encodings are read as what they encode. -/

private theorem Json.get?_entryOf (key name : String) (value : Option Json) :
    Entries.get? name (entryOf key value) = if key = name then value else none := by
  cases value <;> simp [entryOf, Entries.get?]

private theorem Fields.found_optionalText {name : String} {entries : List (String × Json)}
    {value : Option String}
    (hget : Entries.get? name entries = some (Json.optionalString value) ∨
      Entries.get? name entries = value.map Json.string) :
    (optional name Decoder.string).fromEntries entries = .found value :=
  found_optional hget fun _ _ => ⟨by simp, rfl⟩

namespace FieldDefault

private theorem toJson_ne_null (default : FieldDefault) : default.toJson ≠ .null := by
  cases default <;> simp [toJson]

private theorem decode_function (name : String) (args : List Json) :
    Decoder.Restores decode toJson (.function name args) := by
  refine decode_of_decodeFunction (decoder_object_eq_ok_iff.2 ?_)
  exact found_seq (found_map _ (found_text rfl none)) (found_field rfl (Decoder.items_any args))

private theorem decodeFunction_ensures :
    Decoder.Ensures decodeFunction fun default => ∃ name args, default = .function name args := by
  refine Ensures.decoder (Ensures.seq_any (ensures_map_any _ ?_)) _
  exact fun name args => ⟨name, args, rfl⟩

private theorem decode_object_eq_ok_iff {entries : List (String × Json)} {default : FieldDefault} :
    decode (.object entries) = .ok default ↔ decodeFunction (.object entries) = .ok default := by
  refine ⟨fun h => ?_, decode_of_decodeFunction⟩
  cases hread : decodeFunction (.object entries) with
  | ok other => exact (decode_of_decodeFunction hread).symm.trans h
  | error e => simp [decode, Decoder.firstOf, hread, Decoder.string, Decoder.number, Decoder.bool,
      Decoder.list, Except.map] at h

private theorem decode_ensures :
    Decoder.Ensures decode fun default => decode.Restores toJson default := by
  intro j default h
  cases j with
  | null => cases h
  | string | number | bool =>
    cases h
    rfl
  | array items =>
    obtain rfl := Except.ok.inj ((decode_array items).symm.trans h)
    cases hcall : callOf? items with
    | none =>
      have hlist : ofItems items = .list items := ofItems_eq_list_iff.2 hcall
      rw [hlist] at h ⊢
      exact h
    | some call =>
      have hfunction : ofItems items = .function call.1 call.2 := by
        simp only [ofItems, hcall]
      rw [hfunction]
      exact decode_function call.1 call.2
  | object entries =>
    obtain ⟨name, args, rfl⟩ := decodeFunction_ensures _ _ (decode_object_eq_ok_iff.1 h)
    exact decode_function name args

end FieldDefault

namespace Field

private theorem decode_ensures : Decoder.Ensures decode fun field =>
    ∀ default, field.defaultValue = some default →
      Decoder.Restores FieldDefault.decode FieldDefault.toJson default := by
  refine Ensures.decoder ?_ _
  iterate 6 refine Ensures.seq_any ?_
  refine Ensures.seq ?_ (ensures_field (Decoder.ensures_nullable fun j default _ h =>
    FieldDefault.decode_ensures j default h) ?_)
  · iterate 8 refine Ensures.seq_any ?_
    refine ensures_map_any _ ?_
    exact fun _ _ _ _ _ _ _ _ _ _ hdefault _ _ _ _ _ _ => hdefault
  · rintro _ hnone default rfl
    cases hnone

private theorem restores_kind (kind : FieldKind) :
    FieldKind.decode.Restores (fun kind => .string kind.name) kind := by
  cases kind <;> rfl

private theorem decode_toJson {field : Field} (h : ∀ default, field.defaultValue = some default →
    Decoder.Restores FieldDefault.decode FieldDefault.toJson default) :
    decode.Restores toJson field := by
  refine decoder_object_eq_ok_iff.2 ?_
  cases field with
  | mk fieldName kind typeName isList isRequired isUnique isId isReadOnly hasDefault defaultValue
      relationName fromFields toFields documentation isGenerated isUpdatedAt =>
    refine found_seq ?_ (found_flag ?_ _)
    refine found_seq ?_ (found_flag ?_ _)
    refine found_seq ?_ (found_optionalText (Or.inr ?_))
    refine found_seq ?_ (found_texts ?_ _)
    refine found_seq ?_ (found_texts ?_ _)
    refine found_seq ?_ (found_optionalText (Or.inr ?_))
    refine found_seq ?_ (found_optional (Or.inr ?_) fun default hsome =>
      ⟨default.toJson_ne_null, h default hsome⟩)
    refine found_seq ?_ (found_flag ?_ _)
    refine found_seq ?_ (found_flag ?_ _)
    refine found_seq ?_ (found_flag ?_ _)
    refine found_seq ?_ (found_flag ?_ _)
    refine found_seq ?_ (found_flag ?_ _)
    refine found_seq ?_ (found_flag ?_ _)
    refine found_seq ?_ (found_text ?_ _)
    refine found_seq ?_ (found_field ?_ (restores_kind kind))
    refine found_map _ (found_text ?_ _)
    all_goals simp [Entries.get?, Entries.get?_append, Json.get?_entryOf]

private theorem decode_restores :
    Decoder.Ensures decode fun field => decode.Restores toJson field :=
  fun j field h => decode_toJson (decode_ensures j field h)

end Field

namespace Model

private theorem decode_ensures : Decoder.Ensures decode fun model =>
    (∀ field ∈ model.fields, Decoder.Restores Field.decode Field.toJson field) ∧
      ∀ key, model.primaryKey = some key → key ≠ .null := by
  have hfields : (withDefault "fields" (Decoder.list Field.decode) []).Ensures
      fun fields => ∀ field ∈ fields, Decoder.Restores Field.decode Field.toJson field := by
    refine ensures_field (Decoder.ensures_list Field.decode_restores) ?_
    rintro _ hnone
    cases hnone
    exact List.forall_mem_nil _
  have hkey : (Fields.optional "primaryKey" Decoder.any).Ensures
      fun value => ∀ key, value = some key → key ≠ .null := by
    refine ensures_field (Decoder.ensures_nullable fun j key hne h => ?_) ?_
    · cases h
      exact hne
    · rintro _ hnone key rfl
      cases hnone
  refine Ensures.decoder ?_ _
  refine Ensures.seq_any ?_
  refine Ensures.seq ?_ hkey
  refine Ensures.seq_any ?_
  refine Ensures.seq ?_ hfields
  refine Ensures.seq_any ?_
  refine ensures_map_any _ ?_
  exact fun _ _ _ hfields _ _ hkey _ => ⟨hfields, hkey⟩

private theorem decode_toJson {model : Model}
    (hfields : ∀ field ∈ model.fields, Decoder.Restores Field.decode Field.toJson field)
    (hkey : ∀ key, model.primaryKey = some key → key ≠ .null) :
    decode.Restores toJson model := by
  refine decoder_object_eq_ok_iff.2 ?_
  cases model with
  | mk name dbName fields documentation primaryKey uniqueFields =>
    refine found_seq ?_ (found_list ?_ (fun texts _ => Decoder.restores_strings texts) _)
    refine found_seq ?_ (found_optionalAny ?_ hkey)
    refine found_seq ?_ (found_optionalText (Or.inl ?_))
    refine found_seq ?_ (found_list ?_ hfields _)
    refine found_seq ?_ (found_optionalText (Or.inl ?_))
    refine found_map _ (found_text ?_ _)
    all_goals rfl

private theorem decode_restores :
    Decoder.Ensures decode fun model => decode.Restores toJson model :=
  fun j model h => decode_toJson (decode_ensures j model h).1 (decode_ensures j model h).2

end Model

private theorem EnumValue.restores (value : EnumValue) :
    EnumValue.decode.Restores toJson value := by
  refine decoder_object_eq_ok_iff.2 ?_
  cases value with
  | mk name dbName =>
    refine found_seq (found_map _ (found_text ?_ _)) (found_optionalText (Or.inl ?_))
    all_goals rfl

private theorem EnumType.restores (e : EnumType) : EnumType.decode.Restores toJson e := by
  refine decoder_object_eq_ok_iff.2 ?_
  cases e with
  | mk name values dbName documentation =>
    refine found_seq ?_ (found_optionalText (Or.inl ?_))
    refine found_seq ?_ (found_optionalText (Or.inl ?_))
    refine found_seq ?_ (found_list ?_ (fun value _ => value.restores) _)
    refine found_map _ (found_text ?_ _)
    all_goals rfl

namespace Document

private theorem decodeDatamodel_ensures : Decoder.Ensures decodeDatamodel fun doc =>
    (∀ model ∈ doc.models, Decoder.Restores Model.decode Model.toJson model) ∧
      ∀ model ∈ doc.types, Decoder.Restores Model.decode Model.toJson model := by
  have hmodels (name : String) : (withDefault name (Decoder.list Model.decode) []).Ensures
      fun models => ∀ model ∈ models, Decoder.Restores Model.decode Model.toJson model := by
    refine ensures_field (Decoder.ensures_list Model.decode_restores) ?_
    rintro _ hnone
    cases hnone
    exact List.forall_mem_nil _
  refine Ensures.decoder ?_ _
  refine Ensures.seq ?_ (hmodels "types")
  refine Ensures.seq_any ?_
  exact (hmodels "models").map _ fun _ hmodels _ _ htypes => ⟨hmodels, htypes⟩

private theorem decode_restores : Decoder.Ensures decode fun doc => decode.Restores toJson doc := by
  refine Ensures.decoder ((ensures_field ?_ ?_).map _ fun _ h => h) _
  · intro j doc h
    obtain ⟨hmodels, htypes⟩ := decodeDatamodel_ensures j doc h
    have hdatamodel : decodeDatamodel.Restores datamodelJson doc := by
      refine decoder_object_eq_ok_iff.2 ?_
      cases doc with
      | mk models enums types =>
        refine found_seq ?_ (found_list ?_ htypes _)
        refine found_seq ?_ (found_list ?_ (fun e _ => e.restores) _)
        refine found_map _ (found_list ?_ hmodels _)
        all_goals rfl
    exact decoder_object_eq_ok_iff.2 (found_map _ (found_field rfl hdatamodel))
  · rintro _ hnone
    cases hnone

end Document

/-! Records written out more fully are read the same. -/

section Keys

open RecordKey (needed spared)

/-- The keys of a default that is a call. -/
def FieldDefault.keys : List RecordKey := [
  needed "name" Eq,
  spared "args" (.array []) Eq]

def Field.keys : List RecordKey := [
  needed "name" Eq,
  needed "kind" Eq,
  needed "type" Eq,
  spared "isList" (.bool false) Eq,
  spared "isRequired" (.bool true) Eq,
  spared "isUnique" (.bool false) Eq,
  spared "isId" (.bool false) Eq,
  spared "isReadOnly" (.bool false) Eq,
  spared "hasDefaultValue" (.bool false) Eq,
  spared "default" .null (Json.Fuller FieldDefault.keys),
  spared "relationName" .null Eq,
  spared "relationFromFields" (.array []) Eq,
  spared "relationToFields" (.array []) Eq,
  spared "documentation" .null Eq,
  spared "isGenerated" (.bool false) Eq,
  spared "isUpdatedAt" (.bool false) Eq]

def Model.keys : List RecordKey := [
  needed "name" Eq,
  spared "dbName" .null Eq,
  spared "fields" (.array []) (Json.FullerList (Json.Fuller Field.keys)),
  spared "documentation" .null Eq,
  spared "primaryKey" .null Eq,
  spared "uniqueFields" (.array []) Eq]

def EnumValue.keys : List RecordKey := [
  needed "name" Eq,
  spared "dbName" .null Eq]

def EnumType.keys : List RecordKey := [
  needed "name" Eq,
  spared "values" (.array []) (Json.FullerList (Json.Fuller EnumValue.keys)),
  spared "dbName" .null Eq,
  spared "documentation" .null Eq]

def Document.datamodelKeys : List RecordKey := [
  spared "models" (.array []) (Json.FullerList (Json.Fuller Model.keys)),
  spared "enums" (.array []) (Json.FullerList (Json.Fuller EnumType.keys)),
  spared "types" (.array []) (Json.FullerList (Json.Fuller Model.keys))]

def Document.keys : List RecordKey := [
  needed "datamodel" (Json.Fuller Document.datamodelKeys)]

end Keys

private theorem FieldDefault.keeps :
    Decoder.Keeps FieldDefault.decode (Json.Fuller FieldDefault.keys) := by
  have hcall : Decoder.Keeps decodeFunction (Json.Fuller FieldDefault.keys) :=
    (((keeps_text "name").map _).seq (keeps_items "args" Decoder.any)).decoder _
  intro j j' default hj h
  cases hj with
  | same => exact h
  | object hentries =>
    rw [decode_object_eq_ok_iff] at h ⊢
    exact hcall (.object hentries) h
  | array hitems =>
    have heq : ∀ key ∈ FieldDefault.keys, key.fuller = Eq := by
      simp [FieldDefault.keys, RecordKey.needed, RecordKey.spared]
    rw [← hitems.eq heq]
    exact h

private theorem Field.keeps : Decoder.Keeps Field.decode (Json.Fuller Field.keys) := by
  have hdefault := keeps_optional "default" FieldDefault.keeps Json.Fuller.null_iff
  have hfields := ((keeps_text "name").map Field.mk)
    |>.seq (keeps_required "kind" (Decoder.keeps_eq FieldKind.decode))
    |>.seq (keeps_text "type")
    |>.seq (keeps_flag "isList" false)
    |>.seq (keeps_flag "isRequired" true)
    |>.seq (keeps_flag "isUnique" false)
    |>.seq (keeps_flag "isId" false)
    |>.seq (keeps_flag "isReadOnly" false)
    |>.seq (keeps_flag "hasDefaultValue" false)
    |>.seq hdefault
    |>.seq (keeps_optionalEq "relationName" Decoder.string)
    |>.seq (keeps_items "relationFromFields" Decoder.string)
    |>.seq (keeps_items "relationToFields" Decoder.string)
    |>.seq (keeps_optionalEq "documentation" Decoder.string)
    |>.seq (keeps_flag "isGenerated" false)
    |>.seq (keeps_flag "isUpdatedAt" false)
  exact hfields.decoder _

private theorem Model.keeps : Decoder.Keeps Model.decode (Json.Fuller Model.keys) := by
  have hfields := ((keeps_text "name").map Model.mk)
    |>.seq (keeps_optionalEq "dbName" Decoder.string)
    |>.seq (keeps_records "fields" Field.keeps)
    |>.seq (keeps_optionalEq "documentation" Decoder.string)
    |>.seq (keeps_optionalEq "primaryKey" Decoder.any)
    |>.seq (keeps_items "uniqueFields" (Decoder.list Decoder.string))
  exact hfields.decoder _

private theorem EnumValue.keeps : Decoder.Keeps EnumValue.decode (Json.Fuller EnumValue.keys) :=
  (((keeps_text "name").map EnumValue.mk).seq
    (keeps_optionalEq "dbName" Decoder.string)).decoder _

private theorem EnumType.keeps : Decoder.Keeps EnumType.decode (Json.Fuller EnumType.keys) := by
  have hfields := ((keeps_text "name").map EnumType.mk)
    |>.seq (keeps_records "values" EnumValue.keeps)
    |>.seq (keeps_optionalEq "dbName" Decoder.string)
    |>.seq (keeps_optionalEq "documentation" Decoder.string)
  exact hfields.decoder _

private theorem Document.keeps : Decoder.Keeps Document.decode (Json.Fuller Document.keys) := by
  have hdatamodel := ((keeps_records "models" Model.keeps).map Document.mk)
    |>.seq (keeps_records "enums" EnumType.keeps)
    |>.seq (keeps_records "types" Model.keeps)
  exact ((keeps_required "datamodel" (hdatamodel.decoder _)).map id).decoder _

/-- A document is read again from its own encoding, and from every fuller form of a value that it is
read from; so these have its text and its fingerprint. -/
theorem Document.decode_stable {j : Json} {doc : Document} (h : Document.decode j = .ok doc) :
    (Document.decode doc.toJson = .ok doc ∧
        (Document.decode doc.toJson).map Document.serialized = .ok doc.serialized ∧
        (Document.decode doc.toJson).map Document.fingerprint = .ok doc.fingerprint) ∧
      ∀ j', Json.Fuller Document.keys j j' →
        Document.decode j' = .ok doc ∧
          (Document.decode j').map Document.serialized = .ok doc.serialized := by
  have hagain : Document.decode doc.toJson = .ok doc := Document.decode_restores j doc h
  refine ⟨⟨hagain, ?_, ?_⟩, fun j' hj => ?_⟩
  · rw [hagain]
    rfl
  · rw [hagain]
    rfl
  · have hfuller : Document.decode j' = .ok doc := Document.keeps hj h
    refine ⟨hfuller, ?_⟩
    rw [hfuller]
    rfl

/-- The entries of a field whose kind is an object and whose default is an array. -/
def idEntries : List (String × Json) := [
  ("name", .string "id"), ("kind", .object [("scalar", .null)]), ("type", .string "String"),
  ("default", .array [.string "cuid"])]

/-- A document that is an object, of a datamodel that is an array with one model of one field. -/
def userJson (fieldEntries : List (String × Json)) : Json :=
  .object [("datamodel", .array [.array [.object [
    ("name", .string "User"), ("fields", .array [.object fieldEntries])]]])]

def userDocument : Document where
  models := [Model.bare "User" [
    { Field.bare "id" .scalar "String" with
      isRequired := true, defaultValue := some (.function "cuid" []) }]]
  enums := []
  types := []

theorem Document.decode_stable_user :
    Document.decode (userJson idEntries) = .ok userDocument ∧
      Document.decode userDocument.toJson = .ok userDocument ∧
      Document.decode (userJson (("columnName", .null) :: idEntries)) = .ok userDocument ∧
      Document.decode (userJson (("isRequired", .bool true) :: idEntries)) = .ok userDocument := by
  have h : Document.decode (userJson idEntries) = .ok userDocument := rfl
  have hdocument {entries : List (String × Json)}
      (hfield : Json.Fuller Field.keys (.object idEntries) (.object entries)) :
      Json.Fuller Document.keys (userJson idEntries) (userJson entries) := by
    have hkey : RecordKey.spared "fields" (.array []) (Json.FullerList (Json.Fuller Field.keys)) ∈
        Model.keys := by
      simp [Model.keys]
    have hmodel := Json.fuller_under [("name", .string "User")] [] (by decide) hkey
      (.array (.cons hfield .nil))
    refine Json.fuller_under [] [] (by decide) (List.mem_singleton.2 rfl) ?_
    exact .array (.cons (Or.inr (.array (.cons hmodel .nil))) (.nil _))
  have hfurther : Json.Fuller Field.keys (.object idEntries)
      (.object (("columnName", .null) :: idEntries)) :=
    Json.fuller_further [] idEntries (by simp [Field.keys, RecordKey.needed, RecordKey.spared])
  have hspelled : Json.Fuller Field.keys (.object idEntries)
      (.object (("isRequired", .bool true) :: idEntries)) := by
    have hkey : RecordKey.spared "isRequired" (.bool true) Eq ∈ Field.keys := by
      simp [Field.keys]
    exact Json.fuller_spelledOut [] idEntries (by decide) hkey rfl rfl
  obtain ⟨⟨hagain, -⟩, hfuller⟩ := Document.decode_stable h
  exact ⟨h, hagain, (hfuller _ (hdocument hfurther)).1, (hfuller _ (hdocument hspelled)).1⟩

end SchemaMocks
