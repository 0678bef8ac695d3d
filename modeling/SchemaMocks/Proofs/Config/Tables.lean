import SchemaMocks.Proofs.Config.Layering
import SchemaMocks.Proofs.Config.Reading
import SchemaMocks.Proofs.Json.Reading
import SchemaMocks.Proofs.Toml.Order

set_option autoImplicit false
set_option relaxedAutoImplicit false

/-!
The way of depths from a settings file into a configuration. The table of depths is printed as JSON
text, and that text is read again. All keys survive, whatever characters they have, and so do all
integers; nothing else in the table comes out as an integer.
-/

namespace SchemaMocks

namespace Toml.Value

/-- Whether a value holds no other values. -/
def isScalar : Value → Bool
  | array _ | table _ => false
  | _ => true

/-- Whether a value can be set in a file: a text, a switch, an integer or a table of scalars. -/
def isSetting : Value → Bool
  | string _ | boolean _ | integer _ => true
  | table entries => entries.all fun entry => entry.2.isScalar
  | _ => false

variable {value : Value} {entries : List (String × Value)}

theorem exists_setting? (h : value.isSetting = true) : ∃ text, value.setting? = some text := by
  cases value with
  | string _ | boolean _ | integer _ | table _ => exact ⟨_, rfl⟩
  | float _ | datetime _ | array _ => cases h

private theorem entriesJson_eq (entries : List (String × Value)) :
    entriesJson entries = entries.map fun entry => (entry.1, entry.2.toJson) := by
  induction entries with
  | nil => rfl
  | cons entry rest ih => rw [entriesJson, ih, List.map_cons]

private theorem fits_of_isScalar (h : value.isScalar = true) (depth : Nat) :
    Json.Fits (depth + 1) value.toJson := by
  cases value with
  | string _ => exact .string
  | integer _ => exact .number
  | float x => cases x <;> first | exact .number | exact .null
  | boolean _ => exact .bool
  | datetime d =>
    exact .object (List.pairwise_singleton _ _) (List.forall_mem_singleton.2 .string)
  | array _ | table _ => cases h

private theorem fits_toJson (ascending : Entries.Ascending entries)
    (hscalar : ∀ entry ∈ entries, entry.2.isScalar = true) (depth : Nat) :
    Json.Fits (depth + 2) (toJson (.table entries)) := by
  rw [toJson, entriesJson_eq]
  refine .object (List.pairwise_map.2 ascending) fun entry hentry => ?_
  obtain ⟨found, hfound, rfl⟩ := List.mem_map.1 hentry
  exact fits_of_isScalar (hscalar found hfound) depth

private theorem toJson_eq_integer_iff {m : Int}
    {fits : -9223372036854775808 ≤ m ∧ m < 18446744073709551616} :
    value.toJson = .number (.integer m fits) ↔ ∃ n, value = .integer n ∧ n.toInt = m := by
  cases value with
  | float x => cases x <;> simp [toJson, Json.ofBinary]
  | _ => simp [toJson, Json.Number.ofInt64]

theorem read?_compact_table (ascending : Entries.Ascending entries)
    (hscalar : ∀ entry ∈ entries, entry.2.isScalar = true) :
    ∃ others, Json.read? (toJson (.table entries)).compact = some (.object others) ∧
      ∀ (key : String) (depth : UInt32), (key, .nat depth.toNat) ∈ others ↔
        ∃ n : Int64, (key, .integer n) ∈ entries ∧ n.toInt = depth.toNat := by
  obtain ⟨j, halike, hread⟩ := Json.read?_compact (fits_toJson ascending hscalar 125)
  rw [toJson, entriesJson_eq] at halike
  cases halike with
  | @object _ others each =>
    refine ⟨others, hread, fun key depth => ?_⟩
    obtain ⟨fits, hdepth⟩ := ParsedConfig.nat_depth depth
    rw [hdepth]
    clear hread ascending hscalar
    induction entries generalizing others with
    | nil =>
      cases each
      simp
    | cons entry rest ih =>
      obtain ⟨name, found⟩ := entry
      cases each with
      | cons member each =>
        cases member with
        | mk values =>
          rw [List.mem_cons, Prod.mk.injEq, ih each, eq_comm (a := Json.number _),
            values.eq_integer_iff, toJson_eq_integer_iff]
          simp only [List.mem_cons, Prod.mk.injEq]
          constructor
          · rintro (⟨rfl, n, rfl, hn⟩ | ⟨n, hmem, hn⟩)
            · exact ⟨n, .inl ⟨rfl, rfl⟩, hn⟩
            · exact ⟨n, .inr hmem, hn⟩
          · rintro ⟨n, ⟨rfl, rfl⟩ | hmem, hn⟩
            · exact .inl ⟨rfl, n, rfl, hn⟩
            · exact .inr ⟨n, hmem, hn⟩

end Toml.Value

open Toml (Value)

private theorem exists_settingsOfTable {table : Dictionary Value}
    (h : ∀ entry ∈ table.entries, entry.2.isSetting = true) :
    ∃ file, settingsOfTable table = .ok file := by
  have hpairs : table.entries.mapM settingOfEntry =
      .ok (table.entries.map fun entry => (entry.1, entry.2.setting?.getD "")) := by
    rw [mapM_eq_ok_iff, List.forall₂_map_right_iff, List.forall₂_same]
    intro entry hentry
    obtain ⟨text, htext⟩ := Value.exists_setting? (h entry hentry)
    rw [settingOfEntry_eq_ok_iff, htext]
    exact ⟨rfl, rfl⟩
  rw [settingsOfTable, hpairs]
  exact ⟨_, rfl⟩

private theorem ParsedConfig.ofValues_stated {values : Dictionary String} {key raw : String}
    {setting : Setting} {value : setting.Content} (hkey : (key, setting) ∈ Setting.keyed)
    (hraw : values.get? key = some raw) (hstates : setting.States raw value) :
    (ofValues values).config.content setting = value ∧ (ofValues values).issuesFor key = [] := by
  classical
  have hmem : (key, raw) ∈ values.entries := (values.get?_eq_some_iff key raw).1 hraw
  have hstated : setting.IsStated raw := ⟨value, hstates⟩
  constructor
  · exact ((content_after values.nodup_keys _ hkey).1 raw hmem hstated).unique hstates
  · have hissues : (ofValues values).issues.map (·.key) =
        (values.entries.filter fun entry => IsRefused entry.1 entry.2).map Prod.fst :=
      issues_after _
    rw [issuesFor, List.filter_eq_nil_iff]
    intro issue hissue hsame
    have hreported : key ∈ (ofValues values).issues.map (·.key) :=
      List.mem_map.2 ⟨issue, hissue, beq_iff_eq.1 hsame⟩
    rw [hissues] at hreported
    obtain ⟨⟨_, other⟩, hother, rfl⟩ := List.mem_map.1 hreported
    obtain ⟨hentry, hrefused⟩ := List.mem_filter.1 hother
    rw [← values.get?_eq_some_iff, hraw] at hentry
    cases hentry
    exact not_isRefused_of_isStated hkey hstated (of_decide_eq_true hrefused)

section Depths

variable {text : String} {table : Dictionary Value} {entries : List (String × Value)}

/-- The depths that a settings file states for models become those of the configuration: the integers
of 32 bits among its values, under the very keys of the table. Nothing is reported about them. -/
theorem depths_from_file (hread : Toml.read? text = some table)
    (hdepths : table.get? "modelDepths" = some (.table entries))
    (hvalues : ∀ entry ∈ table.entries, entry.2.isSetting = true) :
    ∃ values, settingsOfText text = .ok values ∧
      (∀ key depth, (ParsedConfig.ofValues values).config.modelDepths.get? key = some depth ↔
        ∃ n : Int64, Entries.get? key entries = some (.integer n) ∧ n.toInt = depth.toNat) ∧
      (ParsedConfig.ofValues values).issuesFor "modelDepths" = [] := by
  have hmem := (table.get?_eq_some_iff "modelDepths" _).1 hdepths
  obtain ⟨values, hflat⟩ := exists_settingsOfTable hvalues
  cases Toml.isOrdered_read? hread _ hmem with
  | table ascending each =>
    obtain ⟨others, hothers, hsame⟩ :=
      Value.read?_compact_table ascending (List.all_eq_true.1 (hvalues _ hmem))
    have hraw : values.get? "modelDepths" = some (Value.toJson (.table entries)).compact := by
      rw [get?_settingsOfTable hflat, hdepths]
      rfl
    have hstates : Setting.modelDepths.States (Value.toJson (.table entries)).compact
        (ParsedConfig.depthsOf others) :=
      ⟨others, hothers, fun _ _ => ParsedConfig.get?_depthsOf (Json.ascending_of_read? hothers)⟩
    obtain ⟨hcontent, hissues⟩ := ParsedConfig.ofValues_stated (by decide) hraw hstates
    refine ⟨values, ?_, fun key depth => ?_, hissues⟩
    · rw [settingsOfText, hread]
      exact hflat
    · change Dictionary.get? ((ParsedConfig.ofValues values).config.content .modelDepths) key =
        some depth ↔ _
      rw [hcontent, ParsedConfig.get?_depthsOf (Json.ascending_of_read? hothers), hsame]
      have hget (n : Int64) : Entries.get? key entries = some (.integer n) ↔
          (key, .integer n) ∈ entries :=
        ⟨Entries.mem_of_get?_eq_some,
          Entries.get?_eq_some_of_mem (Entries.nodup_keys_of_ascending ascending)⟩
      simp only [hget]

/-- Keys with a quote, a backslash, a control character and a letter beyond ASCII are kept; integers
out of range, an infinite number and a text are no depths. -/
theorem depths_from_file_keys :
    let text := "\n".intercalate ["mockSeed = 7", "[modelDepths]", "User = 2",
      "\"a\\\"b\\\\c\" = 3", "\"\\u0001\" = 4294967295", "\"Größe\" = 0", "Big = 4294967296",
      "Negative = -1", "Half = 1.5", "Most = inf", "No = nan", "Day = 2024-01-01", "On = true",
      "Digit = \"4\""]
    let entries := Entries.ofList [("User", .integer 2), ("a\"b\\c", .integer 3),
      ("\x01", .integer 4294967295), ("Größe", .integer 0), ("Big", .integer 4294967296),
      ("Negative", .integer (-1)), ("Half", .float (.ofDecimal false 15 (-1))),
      ("Most", .float (.infinite false)), ("No", .float .nan),
      ("Day", .datetime ⟨some ⟨2024, 1, 1⟩, none, none⟩), ("On", .boolean true),
      ("Digit", .string "4")]
    let table := Dictionary.ofList [("mockSeed", .integer 7), ("modelDepths", .table entries)]
    Toml.read? text = some table ∧ table.get? "modelDepths" = some (.table entries) ∧
      (∀ entry ∈ table.entries, entry.2.isSetting = true) ∧
      ∃ values, settingsOfText text = .ok values ∧
        (∀ entry ∈ [("a\"b\\c", 3), ("\x01", 4294967295), ("Größe", 0)],
          (ParsedConfig.ofValues values).config.modelDepths.get? entry.1 = some entry.2) ∧
        (∀ key ∈ ["Big", "Negative", "Most", "Digit"],
          (ParsedConfig.ofValues values).config.modelDepths.get? key = none) ∧
        (ParsedConfig.ofValues values).issuesFor "modelDepths" = [] := by
  intro text entries table
  have hread : Toml.read? text = some table := by decide +kernel
  have hdepths : table.get? "modelDepths" = some (.table entries) := by decide +kernel
  have hvalues : ∀ entry ∈ table.entries, entry.2.isSetting = true := by decide +kernel
  obtain ⟨values, hflat, hsame, hissues⟩ := depths_from_file hread hdepths hvalues
  refine ⟨hread, hdepths, hvalues, values, hflat, ?_, ?_, hissues⟩
  · have hstated : ∀ entry ∈ [("a\"b\\c", (3 : UInt32)), ("\x01", 4294967295), ("Größe", 0)],
        Entries.get? entry.1 entries = some (.integer (Int64.ofNat entry.2.toNat)) ∧
          (Int64.ofNat entry.2.toNat).toInt = entry.2.toNat := by
      decide +kernel
    exact fun entry hentry => (hsame entry.1 entry.2).2 ⟨_, hstated entry hentry⟩
  · have hother : ∀ key ∈ ["Big", "Negative", "Most", "Digit"],
        Entries.get? key entries ∈ [some (.integer 4294967296), some (.integer (-1)),
          some (.float (.infinite false)), some (.string "4")] := by
      decide +kernel
    refine fun key hkey => Option.eq_none_iff_forall_ne_some.2 fun depth hdepth => ?_
    obtain ⟨n, hn, hvalue⟩ := (hsame key depth).1 hdepth
    have hlarge : (4294967296 : Int64).toInt = 4294967296 := by decide
    have hnegative : (-1 : Int64).toInt = -1 := by decide
    have hlt := depth.toNat_lt
    have hfound := hother key hkey
    simp only [hn, List.mem_cons, Option.some.injEq, Value.integer.injEq, reduceCtorEq,
      List.not_mem_nil, or_false] at hfound
    rcases hfound with rfl | rfl <;> omega

end Depths

end SchemaMocks
