import Mathlib.Data.List.TakeWhile
import Mathlib.Tactic.SplitIfs
import SchemaMocks.Config.Parse

set_option autoImplicit false
set_option relaxedAutoImplicit false

/-!
What texts state about settings. Each setting has a key and a kind of values of its own, and a
configuration is what it has for its settings. A text that is well formed for a setting states one
value: a switch, a name, a decimal number or depths of models.
-/

namespace SchemaMocks

namespace Text

/-- Texts of decimal digits, perhaps after a plus sign, and the number that they mean. -/
def IsDecimal (s : String) (n : Nat) : Prop :=
  ∃ digits : List Char, digits ≠ [] ∧ (∀ c ∈ digits, c.isDigit = true) ∧
    (s.toList = digits ∨ s.toList = '+' :: digits) ∧ digitsValue 0 digits = n

theorem natBelow?_eq_some_iff {bound n : Nat} {s : String} :
    natBelow? bound s.toList = some n ↔ IsDecimal s n ∧ n < bound := by
  have hplus : ¬ '+'.isDigit = true := by decide
  unfold natBelow? IsDecimal
  rw [Option.filter_eq_some_iff, decide_eq_true_eq]
  refine and_congr_left fun _ => ?_
  split
  · rename_i rest hs
    rw [digits?_eq_some_iff, hs]
    constructor
    · rintro ⟨hne, hdigits, hvalue⟩
      exact ⟨rest, hne, hdigits, .inr rfl, hvalue⟩
    · rintro ⟨digits, hne, hdigits, rfl | htail, hvalue⟩
      · exact absurd (hdigits '+' List.mem_cons_self) hplus
      · cases htail
        exact ⟨hne, hdigits, hvalue⟩
  · rename_i hs
    rw [digits?_eq_some_iff]
    constructor
    · rintro ⟨hne, hdigits, hvalue⟩
      exact ⟨s.toList, hne, hdigits, .inl rfl, hvalue⟩
    · rintro ⟨digits, hne, hdigits, htext | htext, hvalue⟩
      · rw [htext]
        exact ⟨hne, hdigits, hvalue⟩
      · exact absurd htext (hs digits)

private theorem IsDecimal.unique {s : String} {m n : Nat} (hm : IsDecimal s m)
    (hn : IsDecimal s n) :
    m = n := by
  have hread : natBelow? (max m n + 1) s.toList = some m :=
    natBelow?_eq_some_iff.2 ⟨hm, by omega⟩
  rw [natBelow?_eq_some_iff.2 ⟨hn, by omega⟩] at hread
  exact (Option.some.inj hread).symm

theorem word64?_eq_some_iff {s : String} {w : UInt64} :
    word64? s = some w ↔ IsDecimal s w.toNat := by
  unfold word64?
  simp only [Option.map_eq_some_iff, natBelow?_eq_some_iff]
  constructor
  · rintro ⟨n, ⟨hdecimal, hlt⟩, rfl⟩
    rwa [UInt64.toNat_ofNat', Nat.mod_eq_of_lt hlt]
  · intro hdecimal
    exact ⟨w.toNat, ⟨hdecimal, w.toNat_lt⟩, UInt64.ofNat_toNat⟩

theorem word32?_eq_some_iff {s : String} {w : UInt32} :
    word32? s = some w ↔ IsDecimal s w.toNat := by
  unfold word32?
  simp only [Option.map_eq_some_iff, natBelow?_eq_some_iff]
  constructor
  · rintro ⟨n, ⟨hdecimal, hlt⟩, rfl⟩
    rwa [UInt32.toNat_ofNat', Nat.mod_eq_of_lt hlt]
  · intro hdecimal
    exact ⟨w.toNat, ⟨hdecimal, w.toNat_lt⟩, UInt32.ofNat_toNat⟩

end Text

theorem Entries.ascending_ofList {α : Type} (entries : List (String × α)) :
    Entries.Ascending (Entries.ofList entries) :=
  List.foldlRecOn entries _ List.Pairwise.nil fun _ hacc entry _ =>
    Entries.ascending_put entry.1 entry.2 hacc

theorem Dictionary.ext_get? {α : Type} {a b : Dictionary α} (h : ∀ key, a.get? key = b.get? key) :
    a = b := by
  have hmem : ∀ entry, entry ∈ a.entries ↔ entry ∈ b.entries := fun (key, value) => by
    rw [← a.get?_eq_some_iff, ← b.get?_eq_some_iff, h]
  have hnodup : ∀ d : Dictionary α, d.entries.Nodup := fun d =>
    d.ascending.imp fun hlt heq => String.ne_of_lt hlt (congrArg Prod.fst heq)
  have hperm : a.entries.Perm b.entries :=
    (List.perm_ext_iff_of_nodup (hnodup a) (hnodup b)).2 hmem
  have hentries : a.entries = b.entries :=
    hperm.eq_of_pairwise (fun x y _ _ hxy hyx => absurd (String.lt_trans hxy hyx) (String.lt_irrefl _))
      a.ascending b.ascending
  cases a
  cases b
  cases hentries
  rfl

private theorem Json.ascending_of_readValue {fuel depth : Nat} {cs rest : List Char}
    {entries : List (String × Json)}
    (h : Json.readValue fuel depth cs = some (.object entries, rest)) :
    Entries.Ascending entries := by
  cases fuel with
  | zero => cases h
  | succ fuel =>
    rw [Json.readValue] at h
    split at h
    · cases h
    · cases h
    · cases h
    · simp at h
    · split at h
      · cases h
      · split at h
        · cases h
        · simp at h
    · split at h
      · cases h
      · split at h
        · cases h
          exact List.Pairwise.nil
        · obtain ⟨⟨members, after⟩, -, hobject⟩ := Option.map_eq_some_iff.1 h
          cases hobject
          exact Entries.ascending_ofList members
    · simp at h

theorem Json.ascending_of_read? {text : String} {entries : List (String × Json)}
    (h : Json.read? text = some (.object entries)) : Entries.Ascending entries := by
  unfold Json.read? at h
  dsimp only at h
  split at h
  · rename_i value rest hread
    split at h
    · cases h
      exact Json.ascending_of_readValue hread
    · cases h
  · cases h

namespace ParsedConfig

theorem nat_depth (depth : UInt32) :
    ∃ fits, Json.nat depth.toNat = .number (.integer depth.toNat fits) := by
  have hlt := depth.toNat_lt
  have fits : -9223372036854775808 ≤ (depth.toNat : Int) ∧
      (depth.toNat : Int) < 18446744073709551616 := by
    omega
  exact ⟨fits, by rw [Json.nat, Json.Number.ofInt, dif_pos fits]⟩

private theorem depth?_eq_some_iff {j : Json} {depth : UInt32} :
    depth? j = some depth ↔ j = .nat depth.toNat := by
  obtain ⟨fits, hnat⟩ := nat_depth depth
  rw [hnat]
  constructor
  · intro h
    unfold depth? at h
    split at h
    · rename_i n
      obtain ⟨value, hvalue, rfl⟩ := Option.map_eq_some_iff.1 h
      rw [Option.filter_eq_some_iff, decide_eq_true_eq] at hvalue
      obtain ⟨hnumber, hlt⟩ := hvalue
      cases n with
      | decimal x => cases hnumber
      | integer n fits =>
        have hguard : (if 0 ≤ n then some n.toNat else none) = some value := hnumber
        split_ifs at hguard with hsign
        cases hguard
        rw [Json.number.injEq, Json.Number.integer.injEq, UInt32.toNat_ofNat',
          Nat.mod_eq_of_lt hlt]
        omega
    · cases h
  · rintro rfl
    have hlt : depth.toNat < 4294967296 := depth.toNat_lt
    have hsign : (0 : Int) ≤ depth.toNat := by omega
    simp only [depth?, Json.Number.toNat?, if_pos hsign, Int.toNat_natCast, Option.filter_some,
      decide_eq_true hlt, if_true, Option.map_some, UInt32.ofNat_toNat]

/-- The depths of some entries are those that are integers of 32 bits. -/
theorem get?_depthsOf {entries : List (String × Json)} (h : Entries.Ascending entries)
    {model : String} {depth : UInt32} :
    (depthsOf entries).get? model = some depth ↔ (model, .nat depth.toNat) ∈ entries := by
  let stated (entry : String × Json) : Option (String × UInt32) :=
    (depth? entry.2).map fun d => (entry.1, d)
  have hstated : ∀ entry d, stated entry = some d ↔ entry = (d.1, .nat d.2.toNat) := by
    rintro ⟨key, j⟩ ⟨other, d⟩
    simp only [stated, Option.map_eq_some_iff, depth?_eq_some_iff, Prod.mk.injEq]
    constructor
    · rintro ⟨_, rfl, rfl, rfl⟩
      exact ⟨rfl, rfl⟩
    · rintro ⟨rfl, rfl⟩
      exact ⟨d, rfl, rfl, rfl⟩
  have hnodup : ((entries.filterMap stated).map Prod.fst).Nodup := by
    rw [List.Nodup, List.pairwise_map, List.pairwise_filterMap]
    refine h.imp fun {first second} hlt x hx y hy => ?_
    rw [hstated] at hx hy
    subst hx hy
    exact String.ne_of_lt hlt
  have hmem : (model, depth) ∈ entries.filterMap stated ↔ (model, .nat depth.toNat) ∈ entries := by
    simp only [List.mem_filterMap, hstated, exists_eq_right]
  rw [← hmem]
  change (Dictionary.ofList (entries.filterMap stated)).get? model = some depth ↔ _
  rw [Dictionary.get?_ofList_of_nodup hnodup]
  exact ⟨Entries.mem_of_get?_eq_some, Entries.get?_eq_some_of_mem hnodup⟩

end ParsedConfig

/-- What can be set under a setting. -/
abbrev Setting.Content : Setting → Type
  | .switch _ => Bool
  | .locale => String
  | .seed => Option UInt64
  | .dateRange => UInt32
  | .maxDepth => UInt32
  | .modelDepths => Dictionary UInt32

namespace GeneratorConfig

def content (config : GeneratorConfig) : (setting : Setting) → setting.Content
  | .switch s => s.get config
  | .locale => config.mockDataLocale
  | .seed => config.mockSeed
  | .dateRange => config.mockDateRange
  | .maxDepth => config.relationMaxDepth
  | .modelDepths => config.modelDepths

/-- The configuration with one setting replaced. -/
def put (config : GeneratorConfig) : (setting : Setting) → setting.Content → GeneratorConfig
  | .switch s, value => s.set config value
  | .locale, value => { config with mockDataLocale := value }
  | .seed, value => { config with mockSeed := value }
  | .dateRange, value => { config with mockDateRange := value }
  | .maxDepth, value => { config with relationMaxDepth := value }
  | .modelDepths, value => { config with modelDepths := value }

variable {config : GeneratorConfig}

theorem content_put (setting : Setting) (value : setting.Content) :
    (config.put setting value).content setting = value := by
  cases setting with
  | switch s => cases s <;> rfl
  | _ => rfl

private theorem get_set_of_ne {s t : Switch} (h : t ≠ s) (value : Bool) :
    t.get (s.set config value) = t.get config := by
  cases s <;> cases t <;> first | rfl | exact absurd rfl h

theorem content_put_of_ne {setting other : Setting} (h : other ≠ setting)
    (value : setting.Content) : (config.put setting value).content other = config.content other := by
  cases setting with
  | switch s =>
    cases other with
    | switch t => exact get_set_of_ne (fun heq => h (congrArg Setting.switch heq)) value
    | _ => cases s <;> rfl
  | _ =>
    cases other with
    | switch t => cases t <;> rfl
    | _ => first | rfl | exact absurd rfl h

theorem ext_content {a b : GeneratorConfig} (h : ∀ setting, a.content setting = b.content setting) :
    a = b := by
  have hswitch : ∀ s : Switch, s.get a = s.get b := fun s => h (.switch s)
  cases a
  cases b
  rw [GeneratorConfig.mk.injEq]
  exact ⟨hswitch .createZodSchemas, hswitch .useMultipleFiles, hswitch .writeBarrelFiles,
    hswitch .createInputTypes, hswitch .createModelTypes, hswitch .createPartialTypes,
    hswitch .useDefaultValidators, hswitch .coerceDate, hswitch .createMockFactories,
    h .locale, h .seed, h .dateRange, hswitch .createRelationMocks, hswitch .mockOutputSeparate,
    h .maxDepth, h .modelDepths⟩

end GeneratorConfig

/-- How the state of a switch is written. -/
def Switch.word (value : Bool) : String :=
  if value then "true" else "false"

namespace Setting

/-- Whether a text states a value for a setting: blanks around the value do not count, a switch is
`true` or `false` in any case, numbers are decimal, and depths are the integers of 32 bits among the
members of a JSON object. -/
def States (raw : String) : (setting : Setting) → setting.Content → Prop
  | .switch _, value => Text.asciiLowered (Text.trimmed raw) = Switch.word value
  | .locale, value => value = Text.trimmed raw ∧ Text.trimmed raw ≠ ""
  | .seed, value =>
    ∃ n : UInt64, value = (some n : Option UInt64) ∧ Text.IsDecimal (Text.trimmed raw) n.toNat
  | .dateRange, value => Text.IsDecimal (Text.trimmed raw) (UInt32.toNat value)
  | .maxDepth, value => Text.IsDecimal (Text.trimmed raw) (UInt32.toNat value)
  | .modelDepths, value =>
    ∃ entries, Json.read? raw = some (.object entries) ∧ ∀ (model : String) (depth : UInt32),
      Dictionary.get? (value : Dictionary UInt32) model = some depth ↔
        (model, .nat depth.toNat) ∈ entries

/-- Whether a text is well formed for a setting. -/
def IsStated (setting : Setting) (raw : String) : Prop :=
  ∃ value, setting.States raw value

variable {raw : String}

/-- A text states at most one value. -/
theorem States.unique {setting : Setting} {v w : setting.Content} (hv : setting.States raw v)
    (hw : setting.States raw w) : v = w := by
  cases setting with
  | switch s =>
    have hword : Switch.word v = Switch.word w := hv.symm.trans hw
    have hinjective : ∀ a b : Bool, Switch.word a = Switch.word b → a = b := by decide
    exact hinjective v w hword
  | locale => exact hv.1.trans hw.1.symm
  | seed =>
    obtain ⟨m, rfl, hm⟩ := hv
    obtain ⟨n, rfl, hn⟩ := hw
    exact congrArg some (UInt64.toNat_inj.1 (hm.unique hn))
  | dateRange => exact UInt32.toNat_inj.1 (Text.IsDecimal.unique hv hw)
  | maxDepth => exact UInt32.toNat_inj.1 (Text.IsDecimal.unique hv hw)
  | modelDepths =>
    obtain ⟨entries, hentries, hv⟩ := hv
    obtain ⟨others, hothers, hw⟩ := hw
    rw [hentries] at hothers
    cases hothers
    refine Dictionary.ext_get? fun model => Option.ext fun depth => ?_
    rw [hv, hw]

theorem keyed_inj {key other : String} {s t : Setting} (hs : (key, s) ∈ keyed)
    (ht : (other, t) ∈ keyed) : key = other ↔ s = t := by
  have hall : ∀ a ∈ keyed, ∀ b ∈ keyed, a.1 = b.1 ↔ a.2 = b.2 := by decide
  exact hall _ hs _ ht

theorem exists_key (setting : Setting) : ∃ key, (key, setting) ∈ keyed := by
  cases setting with
  | switch s => cases s <;> exact ⟨_, by unfold keyed; simp; rfl⟩
  | _ => exact ⟨_, by unfold keyed; simp; rfl⟩

end Setting

end SchemaMocks
