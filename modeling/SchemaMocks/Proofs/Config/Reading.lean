import SchemaMocks.Proofs.Config.Stated
import SchemaMocks.Proofs.Text.Lines

set_option autoImplicit false
set_option relaxedAutoImplicit false

/-!
Configurations from texts. A configuration that is made from texts has every stated value, and the
default of every other setting; and each key whose text is not taken over is reported once, in
ascending order of keys.
-/

namespace SchemaMocks

namespace ParsedConfig

private theorem switchValue?_eq_some_iff {raw : String} {value : Bool} :
    switchValue? raw = some value ↔ Text.asciiLowered (Text.trimmed raw) = Switch.word value := by
  unfold switchValue?
  dsimp only
  generalize Text.asciiLowered (Text.trimmed raw) = word
  split_ifs with htrue hfalse
  · rw [beq_iff_eq] at htrue
    subst htrue
    cases value <;> decide
  · rw [beq_iff_eq] at hfalse
    subst hfalse
    cases value <;> decide
  · rw [beq_iff_eq] at htrue hfalse
    cases value <;> simp [Switch.word, htrue, hfalse]

variable {key raw : String} {setting : Setting}

def outcome (config : GeneratorConfig) (issue : ConfigIssue) :
    Option setting.Content → Except ConfigIssue GeneratorConfig
  | some value => .ok (config.put setting value)
  | none => .error issue

private theorem depthEntries_eq_ok_iff {entries : List (String × Json)} :
    depthEntries raw = .ok entries ↔ Json.read? raw = some (.object entries) := by
  unfold depthEntries
  split <;> simp_all

private theorem key_of_depthEntries {issue : ConfigIssue} (h : depthEntries raw = .error issue) :
    issue.key = "modelDepths" := by
  unfold depthEntries at h
  split at h <;> cases h <;> rfl

def Reads (key raw : String) (setting : Setting) : Prop :=
  ∃ (read : Option setting.Content) (issue : ConfigIssue), issue.key = key ∧
    (∀ value, read = some value ↔ setting.States raw value) ∧
    ∀ config, setValue config key raw setting = outcome config issue read

private theorem reads_switch (key raw : String) (s : Switch) : Reads key raw (.switch s) := by
  refine ⟨switchValue? raw, .badSwitch key raw, rfl, fun _ => switchValue?_eq_some_iff,
    fun config => ?_⟩
  unfold setValue
  cases switchValue? raw <;> rfl

private theorem reads_locale (raw : String) : Reads "mockDataLocale" raw .locale := by
  by_cases hblank : Text.isBlankText raw = true
  · have hempty := Text.isBlankText_iff.1 hblank
    refine ⟨none, .emptyLocale, rfl, fun value => ?_, fun config => ?_⟩
    · simp [Setting.States, hempty]
    · unfold setValue
      rw [if_pos hblank, outcome]
  · have hvisible := mt Text.isBlankText_iff.2 hblank
    refine ⟨some (Text.trimmed raw), .emptyLocale, rfl, fun value => ?_, fun config => ?_⟩
    · exact ⟨fun h => ⟨(Option.some.inj h).symm, hvisible⟩, fun h => congrArg some h.1.symm⟩
    · unfold setValue
      rw [if_neg hblank, outcome, GeneratorConfig.put]

private theorem reads_seed (key raw : String) : Reads key raw .seed := by
  refine ⟨(Text.word64? (Text.trimmed raw)).map some, .badInteger key raw, rfl,
    fun value => ?_, fun config => ?_⟩
  · rw [Option.map_eq_some_iff]
    simp only [Text.word64?_eq_some_iff]
    exact exists_congr fun n => ⟨fun h => ⟨h.2.symm, h.1⟩, fun h => ⟨h.2, h.1.symm⟩⟩
  · unfold setValue
    cases Text.word64? (Text.trimmed raw) <;> rfl

private theorem reads_dateRange (key raw : String) : Reads key raw .dateRange := by
  refine ⟨Text.word32? (Text.trimmed raw), .badInteger key raw, rfl,
    fun _ => Text.word32?_eq_some_iff, fun config => ?_⟩
  unfold setValue
  cases Text.word32? (Text.trimmed raw) <;> rfl

private theorem reads_maxDepth (key raw : String) : Reads key raw .maxDepth := by
  refine ⟨Text.word32? (Text.trimmed raw), .badInteger key raw, rfl,
    fun _ => Text.word32?_eq_some_iff, fun config => ?_⟩
  unfold setValue
  cases Text.word32? (Text.trimmed raw) <;> rfl

private theorem reads_modelDepths (raw : String) : Reads "modelDepths" raw .modelDepths := by
  cases hentries : depthEntries raw with
  | error issue =>
    refine ⟨none, issue, key_of_depthEntries hentries, fun value => ⟨nofun, ?_⟩, fun config => ?_⟩
    · rintro ⟨entries, hread, -⟩
      rw [depthEntries_eq_ok_iff.2 hread] at hentries
      cases hentries
    · unfold setValue
      rw [hentries]
      rfl
  | ok entries =>
    have hread := depthEntries_eq_ok_iff.1 hentries
    have hstates : Setting.modelDepths.States raw (depthsOf entries) :=
      ⟨entries, hread, fun _ _ => get?_depthsOf (Json.ascending_of_read? hread)⟩
    refine ⟨some (depthsOf entries), .depthsNotJson raw, rfl, fun value => ?_, fun config => ?_⟩
    · exact ⟨fun h => Option.some.inj h ▸ hstates, fun h => congrArg some (hstates.unique h)⟩
    · unfold setValue
      rw [hentries]
      rfl

private theorem reads_of_mem_keyed (raw : String) (hkey : (key, setting) ∈ Setting.keyed) :
    Reads key raw setting := by
  cases setting with
  | switch s => exact reads_switch key raw s
  | locale =>
    obtain rfl : key = "mockDataLocale" := (Setting.keyed_inj hkey (by decide)).2 rfl
    exact reads_locale raw
  | seed => exact reads_seed key raw
  | dateRange => exact reads_dateRange key raw
  | maxDepth => exact reads_maxDepth key raw
  | modelDepths =>
    obtain rfl : key = "modelDepths" := (Setting.keyed_inj hkey (by decide)).2 rfl
    exact reads_modelDepths raw

/-- Whether a text under a key is no part of a configuration: it is not well formed for the setting
of the key, or the key is unknown and not meant for others. -/
def IsRefused (key raw : String) : Prop :=
  (∃ setting, (key, setting) ∈ Setting.keyed ∧ ¬setting.IsStated raw) ∨
    (key ∉ Setting.knownKeys ∧ key ∉ Setting.passthroughKeys)

theorem not_isRefused_of_isStated (hkey : (key, setting) ∈ Setting.keyed)
    (hstated : setting.IsStated raw) : ¬IsRefused key raw := by
  rintro (⟨other, hother, hnot⟩ | ⟨hunknown, -⟩)
  · obtain rfl := (Setting.keyed_inj hkey hother).1 rfl
    exact hnot hstated
  · exact hunknown (List.mem_map_of_mem hkey)

private theorem setKey_cases (key raw : String) :
    (∃ setting value, (key, setting) ∈ Setting.keyed ∧ setting.States raw value ∧
      ∀ config, setKey config key raw = .ok (config.put setting value)) ∨
    (key ∉ Setting.knownKeys ∧ key ∈ Setting.passthroughKeys ∧
      ∀ config, setKey config key raw = .ok config) ∨
    (IsRefused key raw ∧ ∃ issue : ConfigIssue, issue.key = key ∧
      ∀ config, setKey config key raw = .error issue) := by
  unfold setKey
  cases hof : Setting.ofKey? key with
  | some setting =>
    have hkey : (key, setting) ∈ Setting.keyed := Entries.mem_of_get?_eq_some hof
    obtain ⟨read, issue, hissue, hread, hset⟩ := reads_of_mem_keyed raw hkey
    cases read with
    | some value => exact .inl ⟨setting, value, hkey, (hread value).1 rfl, hset⟩
    | none =>
      refine .inr (.inr ⟨.inl ⟨setting, hkey, ?_⟩, issue, hissue, hset⟩)
      rintro ⟨value, hstates⟩
      cases (hread value).2 hstates
  | none =>
    have hunknown : key ∉ Setting.knownKeys := (Entries.get?_eq_none_iff key _).1 hof
    by_cases hothers : key ∈ Setting.passthroughKeys
    · refine .inr (.inl ⟨hunknown, hothers, fun config => ?_⟩)
      dsimp only
      rw [if_pos (List.contains_iff_mem.2 hothers)]
    · refine .inr (.inr ⟨.inr ⟨hunknown, hothers⟩, .unknownKey key, rfl, fun config => ?_⟩)
      dsimp only
      rw [if_neg (mt List.contains_iff_mem.1 hothers)]

section Steps

variable (parsed : ParsedConfig)

private theorem step_of_ok {config : GeneratorConfig}
    (h : setKey parsed.config key raw = .ok config) :
    (parsed.step key raw).config = config ∧ (parsed.step key raw).issues = parsed.issues := by
  unfold step
  rw [h]
  exact ⟨rfl, rfl⟩

private theorem step_of_error {issue : ConfigIssue}
    (h : setKey parsed.config key raw = .error issue) :
    (parsed.step key raw).config = parsed.config ∧
      (parsed.step key raw).issues = parsed.issues ++ [issue] := by
  unfold step
  rw [h]
  exact ⟨rfl, rfl⟩

private theorem step_stated (hkey : (key, setting) ∈ Setting.keyed)
    (hstated : setting.IsStated raw) :
    setting.States raw ((parsed.step key raw).config.content setting) := by
  rcases setKey_cases key raw with ⟨other, value, hother, hstates, hset⟩ | ⟨hunknown, -⟩ | ⟨hno, -⟩
  · obtain rfl := (Setting.keyed_inj hkey hother).1 rfl
    rw [(parsed.step_of_ok (hset _)).1, GeneratorConfig.content_put]
    exact hstates
  · exact absurd (List.mem_map_of_mem hkey) hunknown
  · exact absurd hno (not_isRefused_of_isStated hkey hstated)

private theorem step_other {other : String} (hkey : (key, setting) ∈ Setting.keyed)
    (h : other = key → ¬setting.IsStated raw) :
    (parsed.step other raw).config.content setting = parsed.config.content setting := by
  rcases setKey_cases other raw with ⟨s, value, hs, hstates, hset⟩ | ⟨-, -, hset⟩ |
    ⟨-, issue, -, hset⟩
  · have hne : setting ≠ s := by
      rintro rfl
      exact h ((Setting.keyed_inj hs hkey).2 rfl) ⟨value, hstates⟩
    rw [(parsed.step_of_ok (hset _)).1, GeneratorConfig.content_put_of_ne hne]
  · rw [(parsed.step_of_ok (hset _)).1]
  · rw [(parsed.step_of_error (hset _)).1]

private theorem step_issues (key raw : String) :
    (IsRefused key raw ∧
      (parsed.step key raw).issues.map (·.key) = parsed.issues.map (·.key) ++ [key]) ∨
    (¬IsRefused key raw ∧ (parsed.step key raw).issues = parsed.issues) := by
  rcases setKey_cases key raw with ⟨setting, value, hkey, hstates, hset⟩ |
    ⟨hunknown, hothers, hset⟩ | ⟨hno, issue, rfl, hset⟩
  · exact .inr ⟨not_isRefused_of_isStated hkey ⟨value, hstates⟩, (parsed.step_of_ok (hset _)).2⟩
  · refine .inr ⟨?_, (parsed.step_of_ok (hset _)).2⟩
    rintro (⟨setting, hkey, -⟩ | ⟨-, hnot⟩)
    · exact hunknown (List.mem_map_of_mem hkey)
    · exact hnot hothers
  · refine .inl ⟨hno, ?_⟩
    rw [(parsed.step_of_error (hset _)).2, List.map_append, List.map_singleton]

end Steps

section Runs

def after (entries : List (String × String)) (parsed : ParsedConfig) : ParsedConfig :=
  entries.foldl (fun parsed (key, raw) => parsed.step key raw) parsed

variable {entries : List (String × String)} (nodup : (entries.map Prod.fst).Nodup)
  (parsed : ParsedConfig)

include nodup in
/-- After texts under different keys, a setting has what the text under its key states, and is as it
was where there is no text or it states nothing. -/
theorem content_after (hkey : (key, setting) ∈ Setting.keyed) :
    (∀ raw, (key, raw) ∈ entries → setting.IsStated raw →
      setting.States raw ((after entries parsed).config.content setting)) ∧
    ((∀ raw, (key, raw) ∈ entries → ¬setting.IsStated raw) →
      (after entries parsed).config.content setting = parsed.config.content setting) := by
  induction entries generalizing parsed with
  | nil => exact ⟨fun raw hraw => absurd hraw List.not_mem_nil, fun _ => rfl⟩
  | cons entry rest ih =>
    obtain ⟨other, text⟩ := entry
    obtain ⟨hfresh, hrest⟩ := List.nodup_cons.1 nodup
    obtain ⟨ihstated, ihsame⟩ := ih hrest (parsed.step other text)
    change _ ∧ (_ → (after rest (parsed.step other text)).config.content setting = _)
    by_cases hother : other = key
    · subst hother
      have hlast : (after rest (parsed.step other text)).config.content setting =
          (parsed.step other text).config.content setting :=
        ihsame fun raw hraw => absurd (List.mem_map_of_mem hraw) hfresh
      constructor
      · intro raw hraw hstated
        change setting.States raw ((after rest (parsed.step other text)).config.content setting)
        rcases List.mem_cons.1 hraw with heq | hlater
        · cases heq
          rw [hlast]
          exact parsed.step_stated hkey hstated
        · exact absurd (List.mem_map_of_mem hlater) hfresh
      · intro hnone
        rw [hlast]
        exact parsed.step_other hkey fun _ => hnone text List.mem_cons_self
    · have hstep : (parsed.step other text).config.content setting =
          parsed.config.content setting :=
        parsed.step_other hkey fun heq => absurd heq hother
      constructor
      · intro raw hraw hstated
        rcases List.mem_cons.1 hraw with heq | hlater
        · cases heq
          exact absurd rfl hother
        · exact ihstated raw hlater hstated
      · intro hnone
        rw [ihsame fun raw hraw => hnone raw (List.mem_cons_of_mem _ hraw), hstep]

open Classical in
theorem issues_after :
    (after entries parsed).issues.map (·.key) = parsed.issues.map (·.key) ++
      (entries.filter fun entry => IsRefused entry.1 entry.2).map Prod.fst := by
  induction entries generalizing parsed with
  | nil => simp [after]
  | cons entry rest ih =>
    obtain ⟨key, raw⟩ := entry
    change (after rest (parsed.step key raw)).issues.map (·.key) = _
    rw [ih, List.filter_cons]
    rcases parsed.step_issues key raw with ⟨hrefused, hissues⟩ | ⟨htaken, hissues⟩
    · simp [hrefused, hissues]
    · simp [htaken, hissues]

end Runs

end ParsedConfig

/-- Configurations that follow some texts: each setting has what the text under its key states, and
the default where there is no text or it states nothing. -/
def GeneratorConfig.Follows (values : Dictionary String) (config : GeneratorConfig) : Prop :=
  ∀ key setting, (key, setting) ∈ Setting.keyed →
    (∀ raw, values.get? key = some raw → setting.IsStated raw →
      setting.States raw (config.content setting)) ∧
    ((∀ raw, values.get? key = some raw → ¬setting.IsStated raw) →
      config.content setting = GeneratorConfig.standard.content setting)

private theorem GeneratorConfig.Follows.unique {values : Dictionary String} {a b : GeneratorConfig}
    (ha : a.Follows values) (hb : b.Follows values) : a = b := by
  apply GeneratorConfig.ext_content
  intro setting
  obtain ⟨key, hkey⟩ := setting.exists_key
  obtain ⟨astated, adefault⟩ := ha key setting hkey
  obtain ⟨bstated, bdefault⟩ := hb key setting hkey
  by_cases hstated : ∃ raw, values.get? key = some raw ∧ setting.IsStated raw
  · obtain ⟨raw, hraw, hraws⟩ := hstated
    exact (astated raw hraw hraws).unique (bstated raw hraw hraws)
  · have hnone : ∀ raw, values.get? key = some raw → ¬setting.IsStated raw :=
      fun raw hraw hraws => hstated ⟨raw, hraw, hraws⟩
    rw [adefault hnone, bdefault hnone]

/-- From texts comes the one configuration that follows them, and an issue about each key whose text
is refused, one for each and in ascending order of keys. -/
theorem ParsedConfig.ofValues_follows (values : Dictionary String) :
    (∀ config : GeneratorConfig,
      config.Follows values ↔ config = (ofValues values).config) ∧
    ((ofValues values).issues.map (·.key)).Pairwise (· < ·) ∧
    ∀ key, key ∈ (ofValues values).issues.map (·.key) ↔
      ∃ raw, values.get? key = some raw ∧ IsRefused key raw := by
  classical
  have hissues : (ofValues values).issues.map (·.key) =
      (values.entries.filter fun entry => IsRefused entry.1 entry.2).map Prod.fst :=
    issues_after _
  have hfollows : (ofValues values).config.Follows values := by
    intro key setting hkey
    simp only [values.get?_eq_some_iff]
    exact content_after values.nodup_keys _ hkey
  refine ⟨fun config => ⟨fun h => h.unique hfollows, fun h => h ▸ hfollows⟩, ?_, fun key => ?_⟩
  · rw [hissues]
    exact values.pairwise_keys.sublist (List.filter_sublist.map Prod.fst)
  · rw [hissues]
    simp [values.get?_eq_some_iff]

end SchemaMocks
