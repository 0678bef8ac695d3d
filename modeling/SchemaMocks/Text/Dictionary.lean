set_option autoImplicit false
set_option relaxedAutoImplicit false

/-!
Finite maps from texts, kept in ascending order of the keys' characters. The order of characters is
the order of code points, which is also the order of the UTF-8 bytes. The lists that underlie the
maps come first: putting an entry replaces the entry of the same key.
-/

namespace SchemaMocks

namespace Entries

variable {α : Type}

def get? (key : String) : List (String × α) → Option α
  | [] => none
  | (k, v) :: rest => if k = key then some v else get? key rest

/-- Puts a value under a key, in the key's place. -/
def put (key : String) (value : α) : List (String × α) → List (String × α)
  | [] => [(key, value)]
  | (k, v) :: rest =>
    if key < k then (key, value) :: (k, v) :: rest
    else if k = key then (key, value) :: rest
    else (k, v) :: put key value rest

/-- Entries in ascending order of keys; of equal keys the last one stays. -/
def ofList (entries : List (String × α)) : List (String × α) :=
  entries.foldl (fun acc (k, v) => put k v acc) []

def Ascending (entries : List (String × α)) : Prop :=
  entries.Pairwise fun a b => a.1 < b.1

theorem mem_put {key : String} {value : α} {entries : List (String × α)} {e : String × α}
    (h : e ∈ put key value entries) : e = (key, value) ∨ e ∈ entries := by
  induction entries with
  | nil => simpa [put] using h
  | cons entry rest ih =>
    obtain ⟨k, v⟩ := entry
    simp only [put] at h
    split at h
    · simpa using h
    · split at h
      · simp only [List.mem_cons] at h ⊢
        exact h.imp id fun h => Or.inr h
      · simp only [List.mem_cons] at h ⊢
        rcases h with h | h
        · exact Or.inr (Or.inl h)
        · exact (ih h).imp id Or.inr

theorem ascending_put (key : String) (value : α) {entries : List (String × α)}
    (h : Ascending entries) : Ascending (put key value entries) := by
  induction entries with
  | nil => simp [put, Ascending]
  | cons entry rest ih =>
    obtain ⟨k, v⟩ := entry
    have hrest := List.pairwise_cons.1 h
    simp only [put]
    split
    · rename_i hlt
      refine List.pairwise_cons.2 ⟨fun e he => ?_, h⟩
      rcases List.mem_cons.1 he with rfl | he
      · exact hlt
      · exact String.lt_trans hlt (hrest.1 e he)
    · rename_i hle
      split
      · rename_i heq
        subst heq
        exact List.pairwise_cons.2 ⟨fun e he => hrest.1 e he, hrest.2⟩
      · rename_i hne
        refine List.pairwise_cons.2 ⟨fun e he => ?_, ih hrest.2⟩
        rcases mem_put he with rfl | he
        · exact Decidable.byContradiction fun h =>
            hne (String.le_antisymm (String.not_lt.1 hle) (String.not_lt.1 h))
        · exact hrest.1 e he

theorem get?_put (key k : String) (value : α) (entries : List (String × α)) :
    get? k (put key value entries) = if key = k then some value else get? k entries := by
  induction entries with
  | nil => simp [put, get?]
  | cons entry rest ih =>
    obtain ⟨l, v⟩ := entry
    simp only [put]
    split
    · simp [get?]
    · split
      · rename_i hl
        subst hl
        by_cases h : l = k <;> simp [get?, h]
      · rename_i hl
        by_cases h : l = k
        · subst h
          have hne : ¬key = l := fun h => hl h.symm
          simp [get?, hne]
        · simp [get?, h, ih]

theorem get?_append (key : String) (front back : List (String × α)) :
    get? key (front ++ back) = (get? key front).or (get? key back) := by
  induction front with
  | nil => rfl
  | cons entry rest ih =>
    by_cases h : entry.1 = key
    · simp [get?, h]
    · simp [get?, h, ih]

theorem get?_eq_none_iff (key : String) (entries : List (String × α)) :
    get? key entries = none ↔ key ∉ entries.map (·.1) := by
  induction entries with
  | nil => simp [get?]
  | cons entry rest ih =>
    by_cases h : entry.1 = key
    · simp [get?, h]
    · simp [get?, h, ih, Ne.symm h]

theorem mem_of_get?_eq_some {key : String} {value : α} {entries : List (String × α)}
    (h : get? key entries = some value) : (key, value) ∈ entries := by
  induction entries with
  | nil => cases h
  | cons entry rest ih =>
    simp only [get?] at h
    split at h
    · rename_i heq
      cases h
      subst heq
      exact List.mem_cons_self
    · exact List.mem_cons_of_mem _ (ih h)

theorem get?_eq_some_of_mem {key : String} {value : α} {entries : List (String × α)}
    (nodup : (entries.map (·.1)).Nodup) (h : (key, value) ∈ entries) :
    get? key entries = some value := by
  induction entries with
  | nil => cases h
  | cons entry rest ih =>
    have hrest := List.nodup_cons.1 nodup
    rcases List.mem_cons.1 h with rfl | h
    · simp [get?]
    · have hkey : key ∈ rest.map (·.1) := List.mem_map.2 ⟨(key, value), h, rfl⟩
      have hne : ¬entry.1 = key := by
        rintro rfl
        exact hrest.1 hkey
      simpa [get?, hne] using ih hrest.2 h

theorem nodup_keys_of_ascending {entries : List (String × α)} (h : Ascending entries) :
    (entries.map (·.1)).Nodup :=
  List.pairwise_map.2 (h.imp String.ne_of_lt)

theorem get?_map {β : Type} (f : α → β) (key : String) (entries : List (String × α)) :
    get? key (entries.map fun (k, v) => (k, f v)) = (get? key entries).map f := by
  induction entries with
  | nil => rfl
  | cons entry rest ih =>
    by_cases h : entry.1 = key
    · simp [get?, h]
    · simpa [get?, h] using ih

end Entries

/-- A finite map from texts, in ascending order of its keys. -/
structure Dictionary (α : Type) where
  entries : List (String × α)
  ascending : Entries.Ascending entries

namespace Dictionary

variable {α β : Type}

instance [DecidableEq α] : DecidableEq (Dictionary α) := fun a b =>
  decidable_of_iff (a.entries = b.entries) ⟨fun h => by cases a; cases b; simp_all, fun h => h ▸ rfl⟩

def empty : Dictionary α :=
  ⟨[], List.Pairwise.nil⟩

instance : Inhabited (Dictionary α) := ⟨empty⟩

def insert (d : Dictionary α) (key : String) (value : α) : Dictionary α :=
  ⟨Entries.put key value d.entries, Entries.ascending_put key value d.ascending⟩

def get? (d : Dictionary α) (key : String) : Option α :=
  Entries.get? key d.entries

theorem get?_empty (key : String) : (empty : Dictionary α).get? key = none := rfl

theorem get?_insert (d : Dictionary α) (key k : String) (value : α) :
    (d.insert key value).get? k = if key = k then some value else d.get? k :=
  Entries.get?_put key k value d.entries

/-- Puts the image of the value under a key in its place; a key without a value counts as the
default. -/
def modify [Inhabited α] (d : Dictionary α) (key : String) (f : α → α) : Dictionary α :=
  d.insert key (f ((d.get? key).getD default))

/-- The least key and the map without it. -/
def takeFirst? (d : Dictionary α) : Option (String × Dictionary α) :=
  match h : d.entries with
  | [] => none
  | (key, _) :: rest => some (key, ⟨rest, (List.pairwise_cons.1 (h ▸ d.ascending)).2⟩)

/-- The map of some entries; of equal keys the last one stays. -/
def ofList (entries : List (String × α)) : Dictionary α :=
  entries.foldl (fun d (k, v) => d.insert k v) empty

def override (below above : Dictionary α) : Dictionary α :=
  above.entries.foldl (fun d (k, v) => d.insert k v) below

def mapValues (f : α → β) (d : Dictionary α) : Dictionary β :=
  ⟨d.entries.map fun (k, v) => (k, f v), by
    have h := d.ascending
    unfold Entries.Ascending at h ⊢
    rw [List.pairwise_map]
    exact h⟩

def keys (d : Dictionary α) : List String :=
  d.entries.map (·.1)

theorem get?_eq_some_iff (d : Dictionary α) (key : String) (value : α) :
    d.get? key = some value ↔ (key, value) ∈ d.entries :=
  ⟨Entries.mem_of_get?_eq_some,
    Entries.get?_eq_some_of_mem (Entries.nodup_keys_of_ascending d.ascending)⟩

theorem mem_keys (d : Dictionary α) (key : String) : key ∈ d.keys ↔ (d.get? key).isSome := by
  have h := Entries.get?_eq_none_iff key d.entries
  rw [← Option.ne_none_iff_isSome]
  simp only [get?, keys, ne_eq, h, Decidable.not_not]

theorem mem_keys_insert (d : Dictionary α) (key k : String) (value : α) :
    k ∈ (d.insert key value).keys ↔ k = key ∨ k ∈ d.keys := by
  rw [mem_keys, mem_keys, get?_insert]
  by_cases h : key = k
  · simp [h]
  · simp [h, Ne.symm h]

theorem pairwise_keys (d : Dictionary α) : d.keys.Pairwise (· < ·) :=
  List.pairwise_map.2 d.ascending

theorem nodup_keys (d : Dictionary α) : d.keys.Nodup :=
  Entries.nodup_keys_of_ascending d.ascending

theorem get?_mapValues (f : α → β) (d : Dictionary α) (key : String) :
    (d.mapValues f).get? key = (d.get? key).map f :=
  Entries.get?_map f key d.entries

theorem get?_modify [Inhabited α] (d : Dictionary α) (key k : String) (f : α → α) :
    (d.modify key f).get? k =
      if key = k then some (f ((d.get? key).getD default)) else d.get? k :=
  get?_insert d key k _

theorem get?_foldl_insert (entries : List (String × α)) (d : Dictionary α) (key : String) :
    (entries.foldl (fun d (k, v) => d.insert k v) d).get? key =
      (Entries.get? key entries.reverse).or (d.get? key) := by
  induction entries generalizing d with
  | nil => simp [Entries.get?]
  | cons entry rest ih =>
    simp only [List.foldl_cons, List.reverse_cons, Entries.get?_append, Option.or_assoc]
    rw [ih, get?_insert]
    by_cases h : entry.1 = key <;> simp [Entries.get?, h]

theorem get?_ofList (entries : List (String × α)) (key : String) :
    (ofList entries).get? key = Entries.get? key entries.reverse := by
  rw [ofList, get?_foldl_insert, get?_empty, Option.or_none]

theorem mem_keys_ofList (entries : List (String × α)) (key : String) :
    key ∈ (ofList entries).keys ↔ key ∈ entries.map (·.1) := by
  have h := Entries.get?_eq_none_iff key entries.reverse
  rw [mem_keys, get?_ofList, ← Option.ne_none_iff_isSome, ne_eq, h, List.map_reverse,
    List.mem_reverse, Decidable.not_not]

theorem get?_ofList_of_mem {entries : List (String × α)} {key : String} {value : α}
    (nodup : (entries.map (·.1)).Nodup) (h : (key, value) ∈ entries) :
    (ofList entries).get? key = some value := by
  rw [get?_ofList]
  refine Entries.get?_eq_some_of_mem ?_ (List.mem_reverse.2 h)
  rw [List.map_reverse]
  exact List.pairwise_reverse.2 (nodup.imp Ne.symm)

theorem get?_ofList_of_nodup {entries : List (String × α)} (nodup : (entries.map (·.1)).Nodup)
    (key : String) : (ofList entries).get? key = Entries.get? key entries := by
  cases hget : Entries.get? key entries with
  | some value => exact get?_ofList_of_mem nodup (Entries.mem_of_get?_eq_some hget)
  | none =>
    rw [Entries.get?_eq_none_iff, ← mem_keys_ofList, mem_keys, Bool.not_eq_true,
      Option.isSome_eq_false_iff, Option.isNone_iff_eq_none] at hget
    exact hget

theorem get?_ofList_map (f : String → α) (keys : List String) (key : String) :
    (ofList (keys.map fun k => (k, f k))).get? key = if key ∈ keys then some (f key) else none := by
  rw [get?_ofList]
  split
  · rename_i hmem
    cases hget : Entries.get? key (keys.map fun k => (k, f k)).reverse with
    | none =>
      rw [Entries.get?_eq_none_iff] at hget
      simp [hmem] at hget
    | some value =>
      have h := Entries.mem_of_get?_eq_some hget
      simp only [List.mem_reverse, List.mem_map, Prod.mk.injEq] at h
      obtain ⟨k, _, rfl, rfl⟩ := h
      rfl
  · rename_i hmem
    rw [Entries.get?_eq_none_iff]
    simpa using hmem

theorem takeFirst?_eq_none_iff (d : Dictionary α) : d.takeFirst? = none ↔ d.keys = [] := by
  unfold takeFirst?
  split
  · rename_i h
    simp [keys, h]
  · rename_i h
    simp [keys, h]

theorem keys_of_takeFirst?_eq_some {d rest : Dictionary α} {key : String}
    (h : d.takeFirst? = some (key, rest)) : d.keys = key :: rest.keys := by
  unfold takeFirst? at h
  split at h
  · cases h
  · rename_i hd
    cases h
    simp [keys, hd]

end Dictionary

def sortedDistinct (items : List String) : List String :=
  (Dictionary.ofList (items.map fun s => (s, ()))).keys

theorem mem_sortedDistinct (items : List String) (s : String) :
    s ∈ sortedDistinct items ↔ s ∈ items := by
  rw [sortedDistinct, Dictionary.mem_keys_ofList, List.map_map]
  simp

theorem nodup_sortedDistinct (items : List String) : (sortedDistinct items).Nodup :=
  Dictionary.nodup_keys _

end SchemaMocks
