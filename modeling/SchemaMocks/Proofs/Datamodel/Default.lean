import SchemaMocks.Datamodel.Json
import SchemaMocks.Proofs.Datamodel.Validation
import SchemaMocks.Proofs.Json.Record
import SchemaMocks.Source.Basic

set_option autoImplicit false
set_option relaxedAutoImplicit false

/-!
Defaults that are arrays. An array is read as a call where it has the form of one: a text alone, or
a text and an array. All other arrays are read as lists. So a list of one text is lost as a default,
and with it the mock that would repeat it.
-/

namespace SchemaMocks

theorem Decoder.items_any (items : List Json) : Decoder.items Decoder.any items = .ok items := by
  induction items with
  | nil => rfl
  | cons j rest ih => exact items_cons_eq_ok_iff.2 ⟨j, rest, rfl, ih, rfl⟩

namespace FieldDefault

variable {items : List Json} {default : FieldDefault}

/-- The name and the arguments of an array that has the form of a call. -/
def callOf? : List Json → Option (String × List Json)
  | [.string name] => some (name, [])
  | [.string name, .array args] => some (name, args)
  | _ => none

/-- The default that an array is read as. -/
def ofItems (items : List Json) : FieldDefault :=
  match callOf? items with
  | some (name, args) => .function name args
  | none => .list items

private theorem decodeFunction_array_iff : decodeFunction (.array items) = .ok default ↔
    ∃ name args, callOf? items = some (name, args) ∧ .function name args = default := by
  rw [decodeFunction, Fields.decoder_array_eq_ok_iff]
  constructor
  · intro h
    obtain ⟨_, between, args, hcall, hargs, rfl⟩ := Fields.fromItems_seq_eq_ok_iff.1 h
    obtain ⟨_, _, name, hpure, hname, rfl⟩ :=
      Fields.fromItems_seq_eq_ok_iff (f := Fields.pure FieldDefault.function).1 hcall
    cases hpure
    rcases Fields.field_eq_ok_iff.1 hname with ⟨-, -, hnone⟩ | ⟨first, rfl, hfirst⟩
    · cases hnone
    cases first with
    | string name =>
      cases hfirst
      rcases Fields.field_eq_ok_iff.1 hargs with ⟨rfl, -, hnothing⟩ | ⟨second, rfl, hsecond⟩
      · cases hnothing
        exact ⟨name, [], rfl, rfl⟩
      · cases second with
        | array args' =>
          obtain rfl : args' = args := Except.ok.inj ((Decoder.items_any args').symm.trans hsecond)
          exact ⟨name, args', rfl, rfl⟩
        | null | bool | number | string | object => cases hsecond
    | null | bool | number | array | object => cases hfirst
  · rintro ⟨name, args, hcall, rfl⟩
    unfold callOf? at hcall
    split at hcall
    · cases hcall
      exact Fields.fromItems_seq_eq_ok_iff.2 ⟨_, [], [], rfl, rfl, rfl⟩
    · cases hcall
      refine Fields.fromItems_seq_eq_ok_iff.2 ⟨_, [.array args], args, rfl, ?_, rfl⟩
      exact Fields.field_eq_ok_iff.2 (Or.inr ⟨_, rfl, Decoder.items_any args⟩)
    · cases hcall

theorem decode_of_decodeFunction {j : Json} (h : decodeFunction j = .ok default) :
    decode j = .ok default := by
  simp only [decode, Decoder.firstOf, h]

/-- Every array is a default. -/
theorem decode_array (items : List Json) : decode (.array items) = .ok (ofItems items) := by
  cases hread : decodeFunction (.array items) with
  | ok default =>
    obtain ⟨name, args, hcall, rfl⟩ := decodeFunction_array_iff.1 hread
    rw [decode_of_decodeFunction hread, ofItems, hcall]
  | error e =>
    have hcall : callOf? items = none := by
      cases hcall : callOf? items with
      | none => rfl
      | some call =>
        rw [decodeFunction_array_iff.2 ⟨call.1, call.2, hcall, rfl⟩] at hread
        cases hread
    simp only [decode, Decoder.firstOf, hread, Decoder.string, Decoder.number, Decoder.bool,
      Decoder.list, Except.map, Decoder.items_any, ofItems, hcall]

theorem ofItems_eq_list_iff : ofItems items = .list items ↔ callOf? items = none := by
  unfold ofItems
  cases callOf? items <;> simp

private theorem ofDefault?_ofItems_eq_list_iff :
    DefaultMock.ofDefault? (ofItems items) = some (.list items) ↔ callOf? items = none := by
  unfold ofItems
  cases callOf? items with
  | none => simp [DefaultMock.ofDefault?]
  | some call =>
    have hfunctions : ∀ entry ∈ DefaultMock.functions, entry.2 ≠ .list items := by
      simp [DefaultMock.functions]
    simp only [DefaultMock.ofDefault?, reduceCtorEq, iff_false]
    intro hget
    exact hfunctions _ (Entries.mem_of_get?_eq_some hget) rfl

end FieldDefault

namespace Field

open Fields

variable {entries : List (String × Json)} {items : List Json} {field : Field}

private theorem found_defaultValue (h : Field.decode (.object entries) = .ok field) :
    (optional "default" FieldDefault.decode).fromEntries entries = .found field.defaultValue := by
  refine EnsuresIn.of_decoder (Q := fun field =>
    (optional "default" FieldDefault.decode).fromEntries entries = .found field.defaultValue) ?_ h
  iterate 6 refine EnsuresIn.seq_any ?_
  refine EnsuresIn.seq ?_ fun _ hdefault => hdefault
  iterate 8 refine EnsuresIn.seq_any ?_
  refine ensuresIn_map_any _ ?_
  intros
  assumption

/-- A default that is an array stays a list, and a field without a directive is mocked by that list,
if and only if the array does not have the form of a call. -/
theorem arrayDefault_kept_iff (hfield : Field.decode (.object entries) = .ok field)
    (hdefault : Entries.get? "default" entries = some (.array items)) :
    field.defaultValue = some (FieldDefault.ofItems items) ∧
      (field.defaultValue = some (.list items) ↔ FieldDefault.callOf? items = none) ∧
      (field.directive? = none →
        (field.explicitSource? = some (.default (.list items)) ↔
          FieldDefault.callOf? items = none)) := by
  have hread : field.defaultValue = some (FieldDefault.ofItems items) := by
    rcases field_eq_found_iff.1 (found_defaultValue hfield) with ⟨hnone, -⟩ | ⟨j, hsome, hj⟩
    · rw [hdefault] at hnone
      cases hnone
    · obtain rfl : .array items = j := Option.some.inj (hdefault.symm.trans hsome)
      rw [Decoder.nullable_of_ne_null _ (by simp), FieldDefault.decode_array] at hj
      exact (Except.ok.inj hj).symm
  refine ⟨hread, ?_, fun hdirective => ?_⟩
  · rw [hread, Option.some_inj]
    exact FieldDefault.ofItems_eq_list_iff
  · have hsource : field.explicitSource? =
        (DefaultMock.ofDefault? (FieldDefault.ofItems items)).map MockSource.default := by
      simp only [explicitSource?, hdirective, hread, Option.bind_some]
    rw [hsource, ← FieldDefault.ofDefault?_ofItems_eq_list_iff, Option.map_eq_some_iff]
    constructor
    · rintro ⟨mock, hmock, heq⟩
      cases heq
      exact hmock
    · exact fun hmock => ⟨_, hmock, rfl⟩

/-- A list of roles with a default. -/
def roles (default : FieldDefault) : Field :=
  { Field.bare "roles" .enum "Role" with
    isList := true, isRequired := true, hasDefault := true, defaultValue := some default }

/-- The entries of a list of roles with an array for a default. -/
def rolesEntries (default : List String) : List (String × Json) := [
  ("default", Json.strings default), ("hasDefaultValue", .bool true), ("isList", .bool true),
  ("kind", .string "enum"), ("name", .string "roles"), ("type", .string "Role")]

theorem arrayDefault_kept_two_roles :
    ∃ field, Field.decode (.object (rolesEntries ["USER", "ADMIN"])) = .ok field ∧
      field.explicitSource? = some (.default (.list [.string "USER", .string "ADMIN"])) := by
  let items : List Json := [.string "USER", .string "ADMIN"]
  have hfield : Field.decode (.object (rolesEntries ["USER", "ADMIN"])) =
      .ok (roles (.list items)) := rfl
  have hdefault : Entries.get? "default" (rolesEntries ["USER", "ADMIN"]) =
      some (.array items) := rfl
  obtain ⟨-, -, hsource⟩ := arrayDefault_kept_iff hfield hdefault
  exact ⟨roles (.list items), hfield, (hsource rfl).2 rfl⟩

/-- A default of one role is read as a call of a function that nobody knows, and is lost. -/
theorem arrayDefault_lost_one_role :
    Field.decode (.object (rolesEntries ["USER"])) = .ok (roles (.function "USER" [])) ∧
      (roles (.function "USER" [])).explicitSource? = none :=
  ⟨rfl, rfl⟩

end Field

end SchemaMocks
