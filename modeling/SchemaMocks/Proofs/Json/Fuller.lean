import Mathlib.Data.List.Nodup
import SchemaMocks.Proofs.Json.Record

set_option autoImplicit false
set_option relaxedAutoImplicit false

/-!
Fuller forms of records. A record can be written out more fully: with keys that it does not have,
and with what its absent keys stand for. A decoder that is told what keys there are, and what each
of them stands for where it is absent, reads the fuller form as the same.
-/

namespace SchemaMocks

/-- A key of a record: what fuller forms the value under it has, and what an absent key stands
for. -/
structure RecordKey where
  name : String
  fuller : Json → Json → Prop
  implied : Option Json

namespace RecordKey

/-- A key that has to be there. -/
def needed (name : String) (fuller : Json → Json → Prop) : RecordKey :=
  ⟨name, fuller, none⟩

/-- A key that may be absent. -/
def spared (name : String) (implied : Json) (fuller : Json → Json → Prop) : RecordKey :=
  ⟨name, fuller, some implied⟩

inductive FullerEntry (key : RecordKey) : Option Json → Option Json → Prop
  | same (value : Option Json) : FullerEntry key value value
  | fuller {j j' : Json} : key.fuller j j' → FullerEntry key (some j) (some j')
  | implied {j : Json} : key.implied = some j → FullerEntry key none (some j)

/-- The items of a record that is an array, and those of a fuller form. -/
inductive FullerItems : List RecordKey → List Json → List Json → Prop
  | nil (keys : List RecordKey) : FullerItems keys [] []
  | cons {key : RecordKey} {keys : List RecordKey} {j j' : Json} {rest rest' : List Json} :
      j = j' ∨ key.fuller j j' → FullerItems keys rest rest' →
      FullerItems (key :: keys) (j :: rest) (j' :: rest')
  | surplus (items : List Json) : FullerItems [] items items

end RecordKey

namespace Json

/-- Whether a value is another one, or the same record written out more fully. Keys that the record
does not have may be added, and so may absent keys with what they stand for; the values of other
keys stay or have fuller forms of their own. The order of entries does not matter. -/
inductive Fuller (keys : List RecordKey) : Json → Json → Prop
  | same (j : Json) : Fuller keys j j
  | object {entries entries' : List (String × Json)} :
      (∀ key ∈ keys,
        key.FullerEntry (Entries.get? key.name entries) (Entries.get? key.name entries')) →
      Fuller keys (object entries) (object entries')
  | array {items items' : List Json} :
      RecordKey.FullerItems keys items items' → Fuller keys (array items) (array items')

/-- Whether a value is another one, or a list of fuller forms of its items. -/
inductive FullerList (fuller : Json → Json → Prop) : Json → Json → Prop
  | same (j : Json) : FullerList fuller j j
  | array {items items' : List Json} :
      List.Forall₂ fuller items items' → FullerList fuller (array items) (array items')

section Moves

variable {keys : List RecordKey} {key : RecordKey} (front back : List (String × Json))
  {name : String} {value value' : Json}

private theorem get?_middle :
    Entries.get? name (front ++ (name, value) :: back) =
      (Entries.get? name front).or (some value) := by
  simp [Entries.get?_append, Entries.get?]

private theorem get?_middle_of_ne {other : String} (h : other ≠ name) :
    Entries.get? name (front ++ (other, value) :: back) = Entries.get? name (front ++ back) := by
  simp [Entries.get?_append, Entries.get?, h]

/-- A further key, which the record does not have. -/
theorem fuller_further (h : ∀ key ∈ keys, key.name ≠ name) :
    Fuller keys (object (front ++ back)) (object (front ++ (name, value) :: back)) := by
  refine Fuller.object fun key hkey => ?_
  rw [get?_middle_of_ne front back (h key hkey).symm]
  exact .same _

/-- An absent key with what it stands for. -/
theorem fuller_spelledOut (distinct : (keys.map RecordKey.name).Nodup) (hkey : key ∈ keys)
    (habsent : Entries.get? key.name (front ++ back) = none) (hvalue : key.implied = some value) :
    Fuller keys (object (front ++ back)) (object (front ++ (key.name, value) :: back)) := by
  refine Fuller.object fun other hother => ?_
  by_cases hname : key.name = other.name
  · obtain rfl := List.inj_on_of_nodup_map distinct hkey hother hname
    have hfront : Entries.get? key.name front = none := by
      rw [Entries.get?_append, Option.or_eq_none_iff] at habsent
      exact habsent.1
    rw [habsent, get?_middle, hfront]
    exact .implied hvalue
  · rw [get?_middle_of_ne front back hname]
    exact .same _

/-- A fuller form of the value under a key. -/
theorem fuller_under (distinct : (keys.map RecordKey.name).Nodup) (hkey : key ∈ keys)
    (hvalue : key.fuller value value') :
    Fuller keys (object (front ++ (key.name, value) :: back))
      (object (front ++ (key.name, value') :: back)) := by
  refine Fuller.object fun other hother => ?_
  by_cases hname : key.name = other.name
  · obtain rfl := List.inj_on_of_nodup_map distinct hkey hother hname
    rw [get?_middle, get?_middle]
    cases Entries.get? key.name front with
    | none => exact .fuller hvalue
    | some first => exact .same _
  · rw [get?_middle_of_ne front back hname, get?_middle_of_ne front back hname]
    exact .same _

end Moves

end Json

section Keeps

variable {α β : Type}

def Decoder.Keeps (decode : Decoder α) (fuller : Json → Json → Prop) : Prop :=
  ∀ ⦃j j' : Json⦄ ⦃x : α⦄, fuller j j' → decode j = .ok x → decode j' = .ok x

theorem Decoder.keeps_eq (decode : Decoder α) : decode.Keeps Eq := by
  rintro j _ x rfl h
  exact h

private theorem Decoder.keeps_items {item : Decoder α} {fuller : Json → Json → Prop}
    (h : item.Keeps fuller) {js js' : List Json} (hjs : List.Forall₂ fuller js js') :
    ∀ xs, items item js = .ok xs → items item js' = .ok xs := by
  induction hjs with
  | nil => exact fun _ hxs => hxs
  | @cons j j' rest rest' hj _ ih =>
    intro xs hxs
    obtain ⟨x, others, hx, hothers, rfl⟩ := items_cons_eq_ok_iff.1 hxs
    exact items_cons_eq_ok_iff.2 ⟨x, others, h hj hx, ih others hothers, rfl⟩

private theorem Decoder.keeps_list {item : Decoder α} {fuller : Json → Json → Prop}
    (h : item.Keeps fuller) : (list item).Keeps (Json.FullerList fuller) := by
  intro j j' xs hj hxs
  cases hj with
  | same => exact hxs
  | array hjs => exact keeps_items h hjs xs hxs

private theorem Decoder.keeps_nullable {item : Decoder α} {fuller : Json → Json → Prop}
    (h : item.Keeps fuller) (hnull : ∀ {j j' : Json}, fuller j j' → (j = .null ↔ j' = .null)) :
    (nullable item).Keeps fuller := by
  intro j j' value hj hvalue
  by_cases hjnull : j = .null
  · rw [(hnull hj).1 hjnull]
    rw [hjnull] at hvalue
    exact hvalue
  · have hjnull' : j' ≠ .null := fun h => hjnull ((hnull hj).2 h)
    rw [nullable_of_ne_null item hjnull] at hvalue
    rw [nullable_of_ne_null item hjnull']
    obtain ⟨x, hx, rfl⟩ := map_eq_ok_iff.1 hvalue
    exact map_eq_ok_iff.2 ⟨x, h hj hx, rfl⟩

namespace Fields

/-- Whether the fields of a record have some keys and are read from fuller forms as the same. -/
structure Keeps (fields : Fields α) (keys : List RecordKey) : Prop where
  entries : ∀ {entries entries' : List (String × Json)} {x : α},
    (∀ key ∈ keys,
      key.FullerEntry (Entries.get? key.name entries) (Entries.get? key.name entries')) →
    fields.fromEntries entries = .found x → fields.fromEntries entries' = .found x
  items : ∀ {more : List RecordKey} {index : Nat} {items items' rest : List Json} {x : α},
    RecordKey.FullerItems (keys ++ more) items items' →
    fields.fromItems index items = .ok (x, rest) →
    ∃ rest', fields.fromItems index items' = .ok (x, rest') ∧
      RecordKey.FullerItems more rest rest'

variable {f : Fields (α → β)} {x : Fields α} {fields : Fields α}
  {keys otherKeys : List RecordKey}

theorem Keeps.seq (hf : f.Keeps keys) (hx : x.Keeps otherKeys) :
    (f <*> x).Keeps (keys ++ otherKeys) where
  entries hentries hy := by
    obtain ⟨g, a, hg, ha, rfl⟩ := FieldReport.join_eq_found_iff.1 hy
    obtain ⟨hkeys, hothers⟩ := List.forall_mem_append.1 hentries
    exact found_seq (hf.entries hkeys hg) (hx.entries hothers ha)
  items {more index items items' rest y} hitems hy := by
    obtain ⟨g, between, a, hg, ha, rfl⟩ := fromItems_seq_eq_ok_iff.1 hy
    rw [List.append_assoc] at hitems
    obtain ⟨between', hg', hbetween⟩ := hf.items hitems hg
    obtain ⟨rest', ha', hrest⟩ := hx.items hbetween ha
    exact ⟨rest', fromItems_seq_eq_ok_iff.2 ⟨g, between', a, hg', ha', rfl⟩, hrest⟩

theorem Keeps.map (g : α → β) (hx : x.Keeps keys) : (g <$> x).Keeps keys := by
  have hpure : (Fields.pure g).Keeps [] := by
    refine ⟨fun _ h => h, fun {more index items items' rest y} hitems hy => ?_⟩
    cases hy
    exact ⟨items', rfl, hitems⟩
  exact hpure.seq hx

private theorem keeps_field {name : String} {decode : Decoder α} {absent : Option α}
    {fuller : Json → Json → Prop} {implied : Option Json} (h : decode.Keeps fuller)
    (himplied : ∀ j, implied = some j → ∃ a, absent = some a ∧ decode j = .ok a) :
    (field name decode absent).Keeps [⟨name, fuller, implied⟩] where
  entries {entries entries' a} hentries ha := by
    have hentry : RecordKey.FullerEntry ⟨name, fuller, implied⟩
        (Entries.get? name entries) (Entries.get? name entries') :=
      hentries _ (List.mem_singleton.2 rfl)
    rw [field_eq_found_iff] at ha ⊢
    generalize Entries.get? name entries = value at *
    generalize Entries.get? name entries' = value' at *
    cases hentry with
    | same => exact ha
    | @fuller j j' hj =>
      obtain ⟨hnone, -⟩ | ⟨_, hsome, ha⟩ := ha
      · cases hnone
      · cases hsome
        exact Or.inr ⟨j', rfl, h hj ha⟩
    | @implied j hj =>
      obtain ⟨b, rfl, hb⟩ := himplied j hj
      obtain ⟨-, hab⟩ | ⟨_, hsome, -⟩ := ha
      · cases hab
        exact Or.inr ⟨j, rfl, hb⟩
      · cases hsome
  items {more index items items' rest a} hitems ha := by
    rcases field_eq_ok_iff.1 ha with ⟨rfl, rfl, habsent⟩ | ⟨j, rfl, hread⟩
    · cases hitems
      exact ⟨[], field_eq_ok_iff.2 (Or.inl ⟨rfl, rfl, habsent⟩), .nil more⟩
    · cases hitems with
      | @cons _ _ _ j' _ others' hj hothers =>
        have hread' : decode j' = .ok a := by
          rcases hj with rfl | hj
          · exact hread
          · exact h hj hread
        exact ⟨others', field_eq_ok_iff.2 (Or.inr ⟨j', rfl, hread'⟩), hothers⟩

theorem Keeps.decoder (h : fields.Keeps keys) (wanted : String) :
    (fields.decoder wanted).Keeps (Json.Fuller keys) := by
  intro j j' a hj ha
  cases hj with
  | same => exact ha
  | object hentries =>
    rw [decoder_object_eq_ok_iff] at ha ⊢
    exact h.entries hentries ha
  | array hitems =>
    rw [decoder_array_eq_ok_iff] at ha ⊢
    rw [← List.append_nil keys] at hitems
    obtain ⟨rest, ha', hrest⟩ := h.items hitems ha
    cases hrest
    · exact ha'
    · exact ha'

variable {decode : Decoder α} {fuller : Json → Json → Prop}

theorem keeps_required (name : String) (h : decode.Keeps fuller) :
    (required name decode).Keeps [.needed name fuller] :=
  keeps_field h fun _ hnone => nomatch hnone

private theorem keeps_withDefault (name : String) {default : α} {implied : Json}
    (h : decode.Keeps fuller)
    (himplied : decode implied = .ok default) :
    (withDefault name decode default).Keeps [.spared name implied fuller] := by
  refine keeps_field h ?_
  rintro _ hsome
  cases hsome
  exact ⟨default, rfl, himplied⟩

theorem keeps_optional (name : String) (h : decode.Keeps fuller)
    (hnull : ∀ {j j' : Json}, fuller j j' → (j = .null ↔ j' = .null)) :
    (optional name decode).Keeps [.spared name .null fuller] :=
  keeps_withDefault name (Decoder.keeps_nullable h hnull) rfl

theorem keeps_text (name : String) : (required name Decoder.string).Keeps [.needed name Eq] :=
  keeps_required name (Decoder.keeps_eq Decoder.string)

theorem keeps_flag (name : String) (default : Bool) :
    (withDefault name Decoder.bool default).Keeps [.spared name (.bool default) Eq] :=
  keeps_withDefault name (Decoder.keeps_eq Decoder.bool) rfl

theorem keeps_optionalEq (name : String) (decode : Decoder α) :
    (optional name decode).Keeps [.spared name .null Eq] :=
  keeps_optional name (Decoder.keeps_eq decode) fun h => h ▸ Iff.rfl

theorem keeps_items (name : String) (decode : Decoder α) :
    (withDefault name (Decoder.list decode) []).Keeps [.spared name (.array []) Eq] :=
  keeps_withDefault name (Decoder.keeps_eq _) rfl

theorem keeps_records (name : String) (h : decode.Keeps fuller) :
    (withDefault name (Decoder.list decode) []).Keeps
      [.spared name (.array []) (Json.FullerList fuller)] :=
  keeps_withDefault name (Decoder.keeps_list h) rfl

end Fields

end Keeps

theorem Json.Fuller.null_iff {keys : List RecordKey} {j j' : Json} (h : Fuller keys j j') :
    j = .null ↔ j' = .null := by
  cases h <;> simp

theorem RecordKey.FullerItems.eq {keys : List RecordKey} {items items' : List Json}
    (h : FullerItems keys items items') (hkeys : ∀ key ∈ keys, key.fuller = Eq) :
    items = items' := by
  induction h with
  | nil => rfl
  | surplus => rfl
  | @cons key keys j j' rest rest' hj _ ih =>
    obtain ⟨hkey, hothers⟩ := List.forall_mem_cons.1 hkeys
    have hsame : j = j' := by
      rcases hj with hj | hj
      · exact hj
      · rwa [hkey] at hj
    rw [hsame, ih hothers]

end SchemaMocks
