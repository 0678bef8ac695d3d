import Mathlib.Data.List.Basic
import SchemaMocks.Json.Decode

set_option autoImplicit false
set_option relaxedAutoImplicit false

/-!
What reading a record comes to. A record is found in an object if each of its fields is found there,
and in an array if its fields are found one after the other. What holds of all that the fields give
holds of the records, and a record is read from its encoding if its fields are.
-/

namespace SchemaMocks

section Found

variable {α β : Type}

theorem FieldReport.join_eq_found_iff {f : FieldReport (α → β)} {x : FieldReport α} {y : β} :
    f.join x = .found y ↔ ∃ g a, f = .found g ∧ x = .found a ∧ g a = y := by
  cases f with
  | found g => cases x <;> simp [join]
  | absent n => cases x <;> simp [join]
  | faulty n e =>
    cases x with
    | found a => simp [join]
    | absent m => simp [join]
    | faulty m d => by_cases h : m < n <;> simp [join, h]

namespace Decoder

theorem nullable_of_ne_null (item : Decoder α) {j : Json} (h : j ≠ .null) :
    nullable item j = (item j).map some := by
  cases j with
  | null => exact absurd rfl h
  | bool | number | string | array | object => rfl

theorem items_cons_eq_ok_iff {item : Decoder α} {j : Json} {rest : List Json} {xs : List α} :
    items item (j :: rest) = .ok xs ↔
      ∃ x others, item j = .ok x ∧ items item rest = .ok others ∧ x :: others = xs := by
  cases hx : item j with
  | error e => simp [items, hx, bind, Except.bind]
  | ok x =>
    cases hrest : items item rest with
    | error e => simp [items, hx, hrest, bind, Except.bind]
    | ok others => simp [items, hx, hrest, bind, Except.bind, pure, Except.pure]

theorem map_eq_ok_iff {result : Except DecodeError α} {g : α → β} {y : β} :
    result.map g = .ok y ↔ ∃ x, result = .ok x ∧ g x = y := by
  cases result <;> simp [Except.map]

end Decoder

namespace Fields

variable {f : Fields (α → β)} {x : Fields α} {entries : List (String × Json)} {name : String}
  {decode : Decoder α} {absent : Option α} {fields : Fields α} {wanted : String}

theorem found_seq {g : α → β} {a : α} (hf : f.fromEntries entries = .found g)
    (hx : x.fromEntries entries = .found a) : (f <*> x).fromEntries entries = .found (g a) :=
  FieldReport.join_eq_found_iff.2 ⟨g, a, hf, hx, rfl⟩

theorem found_map {a : α} (g : α → β) (hx : x.fromEntries entries = .found a) :
    (g <$> x).fromEntries entries = .found (g a) :=
  found_seq (f := Fields.pure g) rfl hx

theorem field_eq_found_iff {a : α} : (field name decode absent).fromEntries entries = .found a ↔
    (Entries.get? name entries = none ∧ absent = some a) ∨
      ∃ j, Entries.get? name entries = some j ∧ decode j = .ok a := by
  cases hget : Entries.get? name entries with
  | none => cases absent <;> simp [field, hget]
  | some j => cases hj : decode j <;> simp [field, hget, hj]

theorem field_eq_ok_iff {index : Nat} {items rest : List Json} {a : α} :
    (field name decode absent).fromItems index items = .ok (a, rest) ↔
      (items = [] ∧ rest = [] ∧ absent = some a) ∨ ∃ j, items = j :: rest ∧ decode j = .ok a := by
  cases items with
  | nil =>
    cases absent with
    | none => simp [field]
    | some b => simp [field, and_comm, eq_comm]
  | cons j others =>
    cases hj : decode j with
    | error e => simp [field, hj]
    | ok b => simp [field, hj, and_comm]

theorem found_field {j : Json} {a : α} (hget : Entries.get? name entries = some j)
    (hj : decode j = .ok a) : (field name decode absent).fromEntries entries = .found a :=
  field_eq_found_iff.2 (Or.inr ⟨j, hget, hj⟩)

private theorem found_absent {a : α} (hget : Entries.get? name entries = none)
    (habsent : absent = some a) :
    (field name decode absent).fromEntries entries = .found a :=
  field_eq_found_iff.2 (Or.inl ⟨hget, habsent⟩)

theorem fromItems_seq_eq_ok_iff {index : Nat} {items rest : List Json} {y : β} :
    (f <*> x).fromItems index items = .ok (y, rest) ↔ ∃ g between a,
      f.fromItems index items = .ok (g, between) ∧
        x.fromItems (index + f.count) between = .ok (a, rest) ∧ g a = y := by
  change (f.seq x).fromItems index items = .ok (y, rest) ↔ _
  cases hf : f.fromItems index items with
  | error e => simp [Fields.seq, hf]
  | ok first =>
    obtain ⟨g, between⟩ := first
    cases hx : x.fromItems (index + f.count) between with
    | error e => simp [Fields.seq, hf, hx]
    | ok second =>
      obtain ⟨a, last⟩ := second
      simp [Fields.seq, hf, hx, and_comm]

theorem decoder_object_eq_ok_iff {a : α} :
    fields.decoder wanted (.object entries) = .ok a ↔ fields.fromEntries entries = .found a := by
  cases h : fields.fromEntries entries <;> simp [decoder, ofEntries, h]

theorem decoder_array_eq_ok_iff {items : List Json} {a : α} :
    fields.decoder wanted (.array items) = .ok a ↔ fields.fromItems 0 items = .ok (a, []) := by
  simp only [decoder, ofItems]
  split <;> simp_all

end Fields

end Found

/-! What holds of all that is read. -/

section Ensures

variable {α β : Type}

def Decoder.Ensures (decode : Decoder α) (P : α → Prop) : Prop :=
  ∀ j x, decode j = .ok x → P x

private theorem Decoder.ensures_items {item : Decoder α} {P : α → Prop} (h : item.Ensures P)
    (js : List Json) : ∀ xs, items item js = .ok xs → ∀ x ∈ xs, P x := by
  induction js with
  | nil =>
    rintro _ hxs
    cases hxs
    exact List.forall_mem_nil P
  | cons j rest ih =>
    intro xs hxs
    obtain ⟨x, others, hx, hothers, rfl⟩ := items_cons_eq_ok_iff.1 hxs
    exact List.forall_mem_cons.2 ⟨h j x hx, ih others hothers⟩

theorem Decoder.ensures_list {item : Decoder α} {P : α → Prop} (h : item.Ensures P) :
    (list item).Ensures fun xs => ∀ x ∈ xs, P x := by
  intro j xs hxs
  cases j with
  | array js => exact ensures_items h js xs hxs
  | null | bool | number | string | object => cases hxs

theorem Decoder.ensures_nullable {item : Decoder α} {P : α → Prop}
    (h : ∀ j x, j ≠ .null → item j = .ok x → P x) :
    (nullable item).Ensures fun value => ∀ x, value = some x → P x := by
  rintro j value hvalue x rfl
  by_cases hj : j = .null
  · subst hj
    cases hvalue
  · rw [nullable_of_ne_null item hj] at hvalue
    obtain ⟨y, hy, hsome⟩ := map_eq_ok_iff.1 hvalue
    cases hsome
    exact h j x hj hy

namespace Fields

def EnsuresIn (entries : List (String × Json)) (fields : Fields α) (P : α → Prop) : Prop :=
  ∀ x, fields.fromEntries entries = .found x → P x

structure Ensures (fields : Fields α) (P : α → Prop) : Prop where
  entries : ∀ entries, fields.EnsuresIn entries P
  items : ∀ index items x rest, fields.fromItems index items = .ok (x, rest) → P x

variable {f : Fields (α → β)} {x : Fields α} {fields : Fields α} {P : β → Prop} {Q : α → Prop}
  {entries : List (String × Json)}

theorem EnsuresIn.seq (hf : f.EnsuresIn entries fun g => ∀ a, Q a → P (g a))
    (hx : x.EnsuresIn entries Q) : (f <*> x).EnsuresIn entries P := by
  intro y hy
  obtain ⟨g, a, hg, ha, rfl⟩ := FieldReport.join_eq_found_iff.1 hy
  exact hf g hg a (hx a ha)

theorem EnsuresIn.seq_any (hf : f.EnsuresIn entries fun g => ∀ a, P (g a)) :
    (f <*> x).EnsuresIn entries P :=
  EnsuresIn.seq (Q := fun _ => True) (fun g hg a _ => hf g hg a) fun _ _ => trivial

theorem ensuresIn_map_any (g : α → β) (h : ∀ a, P (g a)) : (g <$> x).EnsuresIn entries P := by
  refine EnsuresIn.seq_any (f := Fields.pure g) fun g' hg => ?_
  cases hg
  exact h

theorem Ensures.seq (hf : f.Ensures fun g => ∀ a, Q a → P (g a)) (hx : x.Ensures Q) :
    (f <*> x).Ensures P where
  entries entries := (hf.entries entries).seq (hx.entries entries)
  items index items y rest hy := by
    obtain ⟨g, between, a, hg, ha, rfl⟩ := fromItems_seq_eq_ok_iff.1 hy
    exact hf.items _ _ _ _ hg a (hx.items _ _ _ _ ha)

theorem Ensures.seq_any (hf : f.Ensures fun g => ∀ a, P (g a)) : (f <*> x).Ensures P :=
  Ensures.seq (Q := fun _ => True)
    ⟨fun entries g hg a _ => hf.entries entries g hg a,
      fun index items g rest hg a _ => hf.items index items g rest hg a⟩
    ⟨fun _ _ _ => trivial, fun _ _ _ _ _ => trivial⟩

private theorem ensures_pure {a : α} (h : Q a) : (Fields.pure a).Ensures Q where
  entries _ b hb := by
    cases hb
    exact h
  items _ _ b rest hb := by
    cases hb
    exact h

theorem Ensures.map (g : α → β) (hx : x.Ensures Q) (h : ∀ a, Q a → P (g a)) :
    (g <$> x).Ensures P :=
  Ensures.seq (f := Fields.pure g) (ensures_pure h) hx

theorem ensures_map_any (g : α → β) (h : ∀ a, P (g a)) : (g <$> x).Ensures P :=
  Ensures.seq_any (f := Fields.pure g) (ensures_pure h)

theorem ensures_field {name : String} {decode : Decoder α} {absent : Option α}
    (h : decode.Ensures Q) (habsent : ∀ a, absent = some a → Q a) :
    (field name decode absent).Ensures Q where
  entries entries a ha := by
    rcases field_eq_found_iff.1 ha with ⟨-, hsome⟩ | ⟨j, -, hj⟩
    · exact habsent a hsome
    · exact h j a hj
  items index items a rest ha := by
    rcases field_eq_ok_iff.1 ha with ⟨-, -, hsome⟩ | ⟨j, -, hj⟩
    · exact habsent a hsome
    · exact h j a hj

theorem EnsuresIn.of_decoder {wanted : String} {a : α} (h : fields.EnsuresIn entries Q)
    (ha : fields.decoder wanted (.object entries) = .ok a) : Q a :=
  h a (decoder_object_eq_ok_iff.1 ha)

theorem Ensures.decoder (h : fields.Ensures Q) (wanted : String) :
    (fields.decoder wanted).Ensures Q := by
  intro j a ha
  cases j with
  | object entries => exact (h.entries entries).of_decoder ha
  | array items => exact h.items 0 items a [] (decoder_array_eq_ok_iff.1 ha)
  | null | bool | number | string => cases ha

end Fields

end Ensures

/-! Encodings are read as what they encode. -/

def Decoder.Restores {α : Type} (decode : Decoder α) (encode : α → Json) (x : α) : Prop :=
  decode (encode x) = .ok x

section Encoded

variable {α : Type} {decode : Decoder α} {encode : α → Json} {absent : Option α} {name : String}
  {entries : List (String × Json)}

private theorem Decoder.restores_list {xs : List α} (h : ∀ x ∈ xs, decode.Restores encode x) :
    (list decode).Restores (fun xs => .array (xs.map encode)) xs := by
  change items decode (xs.map encode) = .ok xs
  induction xs with
  | nil => rfl
  | cons x rest ih =>
    obtain ⟨hx, hrest⟩ := List.forall_mem_cons.1 h
    exact items_cons_eq_ok_iff.2 ⟨x, rest, hx, ih hrest, rfl⟩

theorem Decoder.restores_strings (texts : List String) :
    (list string).Restores Json.strings texts :=
  restores_list fun _ _ => rfl

namespace Fields

theorem found_text {text : String} (h : Entries.get? name entries = some (.string text))
    (absent : Option String) :
    (field name Decoder.string absent).fromEntries entries = .found text :=
  found_field h rfl

theorem found_flag {flag : Bool} (h : Entries.get? name entries = some (.bool flag))
    (absent : Option Bool) : (field name Decoder.bool absent).fromEntries entries = .found flag :=
  found_field h rfl

theorem found_texts {texts : List String}
    (h : Entries.get? name entries = some (Json.strings texts)) (absent : Option (List String)) :
    (field name (Decoder.list Decoder.string) absent).fromEntries entries = .found texts :=
  found_field h (Decoder.restores_strings texts)

theorem found_list {xs : List α} (hget : Entries.get? name entries = some (.array (xs.map encode)))
    (h : ∀ x ∈ xs, decode.Restores encode x) (absent : Option (List α)) :
    (field name (Decoder.list decode) absent).fromEntries entries = .found xs :=
  found_field hget (Decoder.restores_list h)

theorem found_optional {value : Option α}
    (hget : Entries.get? name entries = some (Json.ofOption (value.map encode)) ∨
      Entries.get? name entries = value.map encode)
    (h : ∀ x, value = some x → encode x ≠ .null ∧ decode.Restores encode x) :
    (optional name decode).fromEntries entries = .found value := by
  cases value with
  | none =>
    rcases hget with hnull | hnone
    · exact found_field hnull rfl
    · exact found_absent hnone rfl
  | some x =>
    obtain ⟨hne, hx⟩ := h x rfl
    have hget' : Entries.get? name entries = some (encode x) := by
      rcases hget with hsome | hsome <;> exact hsome
    refine found_field hget' ?_
    rw [Decoder.nullable_of_ne_null decode hne, hx]
    rfl

theorem found_optionalAny {value : Option Json}
    (hget : Entries.get? name entries = some (Json.ofOption value))
    (h : ∀ j, value = some j → j ≠ .null) :
    (optional name Decoder.any).fromEntries entries = .found value := by
  have hid : value.map id = value := Option.map_id_apply
  rw [← hid] at hget
  exact found_optional (Or.inl hget) fun j hj => ⟨h j hj, rfl⟩

end Fields

end Encoded

end SchemaMocks
