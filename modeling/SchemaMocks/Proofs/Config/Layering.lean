import Mathlib.Data.List.Forall2
import SchemaMocks.Generator.Input
import SchemaMocks.Proofs.Config.Reading
import SchemaMocks.Proofs.Runs.Outcome

set_option autoImplicit false
set_option relaxedAutoImplicit false

/-!
Which text decides on a setting. The generator block of an envelope goes before all assignments, a
later assignment of a key before an earlier one, and every assignment before the settings file. Only
the text that decides is read: where it is not well formed the setting keeps its default, whatever
the texts below it are.
-/

namespace SchemaMocks

theorem mapM_eq_ok_iff {ε α β : Type} {f : α → Except ε β} {items : List α} {results : List β} :
    items.mapM f = .ok results ↔
      List.Forall₂ (fun item result => f item = .ok result) items results := by
  induction items generalizing results with
  | nil =>
    rw [List.mapM_nil, List.forall₂_nil_left_iff]
    exact ⟨fun h => (Except.ok.inj h).symm, fun h => h ▸ rfl⟩
  | cons item rest ih =>
    rw [List.mapM_cons, bind_eq_ok_iff, List.forall₂_cons_left_iff]
    refine exists_congr fun result => ?_
    constructor
    · rintro ⟨hitem, hrest⟩
      obtain ⟨others, hothers, hresults⟩ := bind_eq_ok_iff.1 hrest
      exact ⟨others, hitem, ih.1 hothers, (Except.ok.inj hresults).symm⟩
    · rintro ⟨others, hitem, hothers, rfl⟩
      exact ⟨hitem, bind_eq_ok_iff.2 ⟨others, ih.2 hothers, rfl⟩⟩

section Maps

variable {α : Type}

theorem Dictionary.get?_override (below above : Dictionary α) (key : String) :
    (below.override above).get? key = (above.get? key).or (below.get? key) := by
  have hreverse : Entries.get? key above.entries.reverse = above.get? key := by
    rw [← get?_ofList, get?_ofList_of_nodup above.nodup_keys]
    rfl
  rw [override, get?_foldl_insert, hreverse]

private theorem Text.cut?_eq_some_iff {sep : Char} {cs front back : List Char} :
    cut? sep cs = some (front, back) ↔ cs = front ++ sep :: back ∧ sep ∉ front := by
  induction cs generalizing front with
  | nil => simp [cut?]
  | cons c rest ih =>
    by_cases hc : c = sep
    · subst hc
      rw [cut?, if_pos rfl, Option.some_inj, Prod.mk.injEq]
      constructor
      · rintro ⟨rfl, rfl⟩
        exact ⟨rfl, List.not_mem_nil⟩
      · rintro ⟨htext, hfront⟩
        cases front with
        | nil => exact ⟨rfl, (List.cons.inj htext).2⟩
        | cons d front => exact absurd ((List.cons.inj htext).1 ▸ List.mem_cons_self) hfront
    · rw [cut?, if_neg hc, Option.map_eq_some_iff]
      constructor
      · rintro ⟨⟨inner, rest'⟩, hinner, hpair⟩
        cases hpair
        obtain ⟨rfl, hnot⟩ := ih.1 hinner
        exact ⟨rfl, by simpa [Ne.symm hc] using hnot⟩
      · rintro ⟨htext, hfront⟩
        cases front with
        | nil => exact absurd (List.cons.inj htext).1 hc
        | cons d front =>
          obtain ⟨rfl, hrest⟩ := List.cons.inj htext
          have hinner := ih.2 ⟨hrest, fun hmem => hfront (List.mem_cons_of_mem _ hmem)⟩
          exact ⟨(front, back), hinner, rfl⟩

end Maps

section Assignments

variable {raw key value : String} {texts : List String}

def Assigns (raw key value : String) : Prop :=
  ∃ front back : List Char, raw.toList = front ++ '=' :: back ∧ '=' ∉ front ∧
    key = String.ofList (Text.trim front) ∧ value = String.ofList (Text.trim back)

def LastAssigns (texts : List String) (key value : String) : Prop :=
  ∃ before raw after, texts = before ++ raw :: after ∧ Assigns raw key value ∧
    ∀ later ∈ after, ∀ other, ¬Assigns later key other

private theorem assigns_of_ofText {a : Assignment} (h : Assignment.ofText raw = .ok a) :
    Assigns raw key value ↔ key = a.key ∧ value = a.value := by
  unfold Assignment.ofText at h
  split at h
  · cases h
  · rename_i front back hcut
    dsimp only at h
    split at h
    · cases h
    · cases h
      constructor
      · rintro ⟨front', back', htext, hfront, rfl, rfl⟩
        have hsame := Option.some.inj ((Text.cut?_eq_some_iff.2 ⟨htext, hfront⟩).symm.trans hcut)
        cases hsame
        exact ⟨rfl, rfl⟩
      · rintro ⟨rfl, rfl⟩
        obtain ⟨htext, hfront⟩ := Text.cut?_eq_some_iff.1 hcut
        exact ⟨front, back, htext, hfront, rfl, rfl⟩

private theorem lastAssigns_cons {text : String} : LastAssigns (text :: texts) key value ↔
    LastAssigns texts key value ∨
      (∀ later ∈ texts, ∀ other, ¬Assigns later key other) ∧ Assigns text key value := by
  constructor
  · rintro ⟨before, raw, after, htexts, hassigns, hlast⟩
    cases before with
    | nil =>
      obtain ⟨rfl, rfl⟩ := List.cons.inj htexts
      exact .inr ⟨hlast, hassigns⟩
    | cons first before =>
      exact .inl ⟨before, raw, after, (List.cons.inj htexts).2, hassigns, hlast⟩
  · rintro (⟨before, raw, after, rfl, hassigns, hlast⟩ | ⟨hlast, hassigns⟩)
    · exact ⟨text :: before, raw, after, rfl, hassigns, hlast⟩
    · exact ⟨[], text, texts, rfl, hassigns, hlast⟩

variable {assignments : List Assignment}

private theorem not_assigned_iff
    (h : List.Forall₂ (fun raw a => Assignment.ofText raw = .ok a) texts assignments) :
    (∀ raw ∈ texts, ∀ value, ¬Assigns raw key value) ↔
      Entries.get? key (assignments.map fun a => (a.key, a.value)).reverse = none := by
  rw [Entries.get?_eq_none_iff, List.map_reverse, List.mem_reverse, List.map_map]
  induction h with
  | nil => simp
  | @cons raw a rest others hraw _ ih =>
    have hfirst : (∀ value, ¬Assigns raw key value) ↔ key ≠ a.key := by
      simp only [assigns_of_ofText hraw, not_and]
      exact ⟨fun h heq => h a.value heq rfl, fun hne _ heq => absurd heq hne⟩
    rw [List.forall_mem_cons, ih, hfirst, List.map_cons, List.mem_cons, not_or]
    rfl

private theorem assigned_eq_some_iff
    (h : List.Forall₂ (fun raw a => Assignment.ofText raw = .ok a) texts assignments) :
    (Dictionary.ofList (assignments.map fun a => (a.key, a.value))).get? key = some value ↔
      LastAssigns texts key value := by
  rw [Dictionary.get?_ofList]
  induction h with
  | nil => simp [Entries.get?, LastAssigns]
  | @cons raw a rest others hraw hrest ih =>
    rw [lastAssigns_cons, not_assigned_iff hrest, assigns_of_ofText hraw, List.map_cons,
      List.reverse_cons, Entries.get?_append, Option.or_eq_some_iff, ih]
    refine or_congr_right (and_congr_right fun _ => ?_)
    by_cases hkey : a.key = key
    · simp [Entries.get?, hkey, eq_comm]
    · simp [Entries.get?, hkey, Ne.symm hkey]

end Assignments

section Tables

variable {table : Dictionary Toml.Value} {file : Dictionary String}

theorem settingOfEntry_eq_ok_iff {entry : String × Toml.Value} {pair : String × String} :
    settingOfEntry entry = .ok pair ↔ entry.1 = pair.1 ∧ entry.2.setting? = some pair.2 := by
  obtain ⟨key, text⟩ := pair
  unfold settingOfEntry
  cases entry.2.setting? with
  | none => simp
  | some found => simp

private theorem get?_flattened {entries : List (String × Toml.Value)}
    {pairs : List (String × String)}
    (h : List.Forall₂ (fun entry pair => settingOfEntry entry = .ok pair) entries pairs) :
    pairs.map (·.1) = entries.map (·.1) ∧
      ∀ key, Entries.get? key pairs = (Entries.get? key entries).bind Toml.Value.setting? := by
  induction h with
  | nil => exact ⟨rfl, fun _ => rfl⟩
  | @cons entry pair _ _ hentry _ ih =>
    obtain ⟨k, v⟩ := entry
    obtain ⟨k', text⟩ := pair
    obtain ⟨rfl, htext⟩ : k = k' ∧ v.setting? = some text := settingOfEntry_eq_ok_iff.1 hentry
    refine ⟨by rw [List.map_cons, List.map_cons, ih.1], fun key => ?_⟩
    by_cases hk : k = key
    · simp [Entries.get?, hk, htext]
    · simpa [Entries.get?, hk] using ih.2 key

/-- The settings of a file are the texts of the values in its table. -/
theorem get?_settingsOfTable (h : settingsOfTable table = .ok file) (key : String) :
    file.get? key = (table.get? key).bind Toml.Value.setting? := by
  unfold settingsOfTable at h
  cases hpairs : table.entries.mapM settingOfEntry with
  | error e =>
    rw [hpairs] at h
    cases h
  | ok pairs =>
    rw [hpairs] at h
    obtain rfl : Dictionary.ofList pairs = file := Except.ok.inj h
    obtain ⟨hkeys, hget⟩ := get?_flattened (mapM_eq_ok_iff.1 hpairs)
    rw [Dictionary.get?_ofList_of_nodup (hkeys ▸ table.nodup_keys), hget key]
    rfl

end Tables

namespace GeneratorInput

def entry? (input : GeneratorInput) (key : String) : Option SettingValue :=
  match input with
  | document _ => none
  | envelope options => options.generator.settings.get? key

private theorem get?_settings (input : GeneratorInput) (key : String) :
    input.settings.get? key = (input.entry? key).map SettingValue.flat := by
  cases input with
  | document => rfl
  | envelope options => exact Dictionary.get?_mapValues _ _ _

/-- The text that decides on a key: that of the envelope, with commas between the texts of a list, or
else that of the last assignment, or else that of the table in the settings file. -/
inductive Decides (input : GeneratorInput) (texts : List String) (table : Dictionary Toml.Value)
    (key : String) : String → Prop
  | single {text : String} (entry : input.entry? key = some (.single text)) :
      Decides input texts table key text
  | list {items : List String} (entry : input.entry? key = some (.many items)) :
      Decides input texts table key (",".intercalate items)
  | assigned {text : String} (noEntry : input.entry? key = none)
      (last : LastAssigns texts key text) : Decides input texts table key text
  | file {value : Toml.Value} {text : String} (noEntry : input.entry? key = none)
      (unassigned : ∀ raw ∈ texts, ∀ other, ¬Assigns raw key other)
      (entry : table.get? key = some value) (flat : value.setting? = some text) :
      Decides input texts table key text

variable {input : GeneratorInput} {texts : List String} {assignments : List Assignment}
  {table : Dictionary Toml.Value} {file : Dictionary String} {key raw : String}

private theorem get?_values_iff (hassignments : texts.mapM Assignment.ofText = .ok assignments)
    (hfile : settingsOfTable table = .ok file) :
    (SettingLayers.mk file assignments input.settings).values.get? key = some raw ↔
      Decides input texts table key raw := by
  have hassigned := mapM_eq_ok_iff.1 hassignments
  rw [SettingLayers.values, Dictionary.get?_override, Dictionary.get?_override,
    SettingLayers.assigned, get?_settings, get?_settingsOfTable hfile]
  cases hentry : input.entry? key with
  | some value =>
    cases value with
    | single text =>
      constructor
      · rintro ⟨⟩
        exact .single hentry
      · rintro (hsingle | hlist | ⟨hnone, -⟩ | ⟨hnone, -⟩) <;> simp_all [SettingValue.flat]
    | many items =>
      constructor
      · rintro ⟨⟩
        exact .list hentry
      · rintro (hsingle | hlist | ⟨hnone, -⟩ | ⟨hnone, -⟩) <;>
          simp_all [SettingValue.flat, Text.joined]
  | none =>
    rw [Option.map_none, Option.none_or, Option.or_eq_some_iff, assigned_eq_some_iff hassigned,
      Dictionary.get?_ofList, ← not_assigned_iff hassigned, Option.bind_eq_some_iff]
    constructor
    · rintro (hlast | ⟨hunassigned, value, hvalue, hflat⟩)
      · exact .assigned hentry hlast
      · exact .file hentry hunassigned hvalue hflat
    · rintro (hsingle | hlist | ⟨-, hlast⟩ | ⟨-, hunassigned, hvalue, hflat⟩)
      · cases hentry.symm.trans hsingle
      · cases hentry.symm.trans hlist
      · exact .inl hlast
      · exact .inr ⟨hunassigned, _, hvalue, hflat⟩

/-- On each setting one text decides at most. The setting has what this text states, and its default
where there is no such text or it is not well formed. -/
theorem settings_layered (input : GeneratorInput)
    (hassignments : texts.mapM Assignment.ofText = .ok assignments)
    (hfile : settingsOfTable table = .ok file) (output : Option Path) {setting : Setting}
    (hkey : (key, setting) ∈ Setting.keyed) :
    let config := (input.job file assignments output).parsed.config
    (∀ raw other, Decides input texts table key raw → Decides input texts table key other →
      raw = other) ∧
    (∀ raw value, Decides input texts table key raw → setting.States raw value →
      config.content setting = value) ∧
    ((∀ raw, Decides input texts table key raw → ¬setting.IsStated raw) →
      config.content setting = GeneratorConfig.standard.content setting) := by
  intro config
  have hdecides : ∀ raw, Decides input texts table key raw →
      (SettingLayers.mk file assignments input.settings).values.get? key = some raw :=
    fun raw => (get?_values_iff hassignments hfile).2
  have hfollows : config.Follows (SettingLayers.mk file assignments input.settings).values :=
    ((ParsedConfig.ofValues_follows _).1 config).2 rfl
  obtain ⟨hstated, hdefault⟩ := hfollows key setting hkey
  refine ⟨fun raw other hraw hother => ?_, fun raw value hraw hvalue => ?_, fun hnone => ?_⟩
  · exact Option.some.inj ((hdecides raw hraw).symm.trans (hdecides other hother))
  · exact (hstated raw (hdecides raw hraw) ⟨value, hvalue⟩).unique hvalue
  · refine hdefault fun raw hraw => hnone raw ?_
    exact (get?_values_iff hassignments hfile).1 hraw

/-- The last of two assignments decides, not the file: its value is all that stands after the first
equals sign, and as that is no number the setting keeps its default. -/
theorem settings_layered_malformed :
    let texts := ["relationMaxDepth = 7", " relationMaxDepth =x=3 "]
    let assignments : List Assignment := [⟨"relationMaxDepth", "7"⟩, ⟨"relationMaxDepth", "x=3"⟩]
    let table := Dictionary.ofList [("relationMaxDepth", Toml.Value.integer 5)]
    let file := Dictionary.ofList [("relationMaxDepth", "5")]
    texts.mapM Assignment.ofText = .ok assignments ∧ settingsOfTable table = .ok file ∧
      Decides (.document ⟨[], [], []⟩) texts table "relationMaxDepth" "x=3" ∧
      ((GeneratorInput.document ⟨[], [], []⟩).job file assignments
        none).parsed.config.relationMaxDepth = 4 := by
  intro texts assignments table file
  have hassignments : texts.mapM Assignment.ofText = .ok assignments := by decide
  have hfile : settingsOfTable table = .ok file := by rfl
  have hdecides : Decides (.document ⟨[], [], []⟩) texts table "relationMaxDepth" "x=3" := by
    refine .assigned rfl ⟨["relationMaxDepth = 7"], " relationMaxDepth =x=3 ", [], rfl, ?_, ?_⟩
    · exact ⟨" relationMaxDepth ".toList, "x=3 ".toList, by decide, by decide, by decide, by decide⟩
    · exact List.forall_mem_nil _
  have hkey : ("relationMaxDepth", Setting.maxDepth) ∈ Setting.keyed := by decide
  obtain ⟨honly, -, hdefault⟩ :=
    settings_layered (.document ⟨[], [], []⟩) hassignments hfile none hkey
  refine ⟨hassignments, hfile, hdecides, hdefault fun raw hraw => ?_⟩
  obtain rfl := honly raw "x=3" hraw hdecides
  rintro ⟨value, hvalue⟩
  have hread : Text.word32? (Text.trimmed "x=3") = none := by decide
  rw [Text.word32?_eq_some_iff.2 hvalue] at hread
  cases hread

end GeneratorInput

end SchemaMocks
