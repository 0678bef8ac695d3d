import SchemaMocks.Config.Parse
import SchemaMocks.Mock.Sampler
import SchemaMocks.Mock.Vocabulary
import SchemaMocks.Proofs.Datamodel.Validation
import SchemaMocks.Proofs.Random.Range
import SchemaMocks.Proofs.Runs.Outcome

set_option autoImplicit false
set_option relaxedAutoImplicit false

/-!
Recent dates. A date is drawn less than the window before the base, and not after it. Every second of
the window can be drawn, so that no draw leaves the dates that can be represented exactly where the
first second of the window can be represented. For the base of the sampler this bounds the window by
a number of days that settings may exceed.
-/

namespace SchemaMocks

namespace Draw

def ones (position : Nat) : WordStream :=
  ⟨fun _ => 4294967295, position⟩

private theorem wordOf_ones (width : Width) (position : Nat) :
    ((wordOf width).run (ones position)).1 = width.modulus - 1 := by
  cases width with
  | bits32 => rfl
  | bits64 =>
    have hword : ((4294967295 : UInt32).toUInt64 ||| (4294967295 : UInt32).toUInt64 <<< 32).toNat =
        18446744073709551615 := by
      decide
    exact hword

private theorem last_place {modulus size : Nat} (hsize : 0 < size) (hfits : size ≤ modulus) :
    (modulus - 1) * size / modulus = size - 1 ∧ (modulus - 1) * size % modulus = modulus - size := by
  have hsplit : (modulus - 1) * size = modulus - size + (size - 1) * modulus := by
    obtain ⟨rest, rfl⟩ := Nat.exists_eq_add_of_le hfits
    obtain ⟨last, rfl⟩ : ∃ last, size = last + 1 := ⟨size - 1, by omega⟩
    have hless : last + 1 + rest - 1 = last + rest := by omega
    have hrest : last + 1 + rest - (last + 1) = rest := by omega
    have hlast : last + 1 - 1 = last := by omega
    rw [hless, hrest, hlast]
    ring
  have hsmall : modulus - size < modulus := by omega
  rw [hsplit]
  constructor
  · rw [Nat.add_mul_div_right _ _ (by omega), Nat.div_eq_of_lt hsmall, Nat.zero_add]
  · rw [Nat.add_mul_mod_self_right, Nat.mod_eq_of_lt hsmall]

private theorem run_bind {α β : Type} (draw : Draw α) (next : α → Draw β) (stream : WordStream) :
    (draw >>= next).run stream = (next (draw.run stream).1).run (draw.run stream).2 :=
  rfl

private theorem offset_ones (width : Width) {size : Nat} (hsize : 0 < size)
    (hfits : size ≤ width.modulus)
    (position : Nat) : ((offset width size).run (ones position)).1 = size - 1 := by
  obtain ⟨hhigh, hlow⟩ := last_place hsize hfits
  have hcarry : ¬width.modulus - size < width.modulus - size := Nat.lt_irrefl _
  unfold offset
  rw [run_bind, wordOf_ones]
  dsimp only
  rw [hhigh, hlow, if_neg hcarry]
  rfl

private theorem between_ones (width : Width) {low high : Int} (hrange : low ≤ high)
    (hshort : high - low + 1 < width.modulus) (position : Nat) :
    ((between width low high).run (ones position)).1 = high := by
  have hsize : (high - low + 1).toNat % width.modulus = (high - low + 1).toNat := by
    apply Nat.mod_eq_of_lt
    omega
  unfold between
  simp only [hsize]
  rw [if_neg (by omega), run_bind, offset_ones width (by omega) (by omega)]
  show low + (((high - low + 1).toNat - 1 : Nat) : Int) = high
  omega

end Draw

namespace Timestamp

variable {t : Timestamp}

private theorem back_of_plain (hplain : t.nanos < nanosPerSecond) (seconds : Nat) :
    t.back seconds = ⟨t.seconds - seconds, t.nanos⟩ := by
  unfold back
  split
  · rename_i hzero
    rw [hzero, Int.natCast_zero, Int.sub_zero]
  · rw [if_neg (by omega)]

private theorem back?_of_plain (hplain : t.nanos < nanosPerSecond) (hend : t.seconds < endSecond)
    (seconds : Nat) :
    t.back? seconds =
      if firstSecond ≤ t.seconds - seconds then some ⟨t.seconds - seconds, t.nanos⟩ else none := by
  have hbelow : t.seconds - seconds < endSecond := by omega
  unfold back? isRepresentable
  dsimp only
  rw [back_of_plain hplain]
  simp only [hbelow, decide_true, Bool.and_true, decide_eq_true_eq]

end Timestamp

namespace MockProfile

variable (profile : MockProfile)

/-- Whether a point in time is less than the window before the base and not after it. -/
structure IsRecent (t : Timestamp) : Prop where
  after : profile.base.seconds - profile.window < t.seconds
  notLater : t.seconds ≤ profile.base.seconds
  sameNanos : t.nanos = profile.base.nanos

def dateBefore (seconds : Nat) : Except MockFailure Timestamp :=
  if Timestamp.firstSecond ≤ profile.base.seconds - seconds then
    .ok ⟨profile.base.seconds - seconds, profile.base.nanos⟩
  else .error .dateOutOfRange

private theorem window_eq : profile.window = max profile.dateRange.toNat 1 * 86400 := by
  have hmax : (max profile.dateRange 1).toNat = max profile.dateRange.toNat 1 := by
    show (if profile.dateRange ≤ 1 then (1 : UInt32) else profile.dateRange).toNat = _
    split <;> rename_i h <;> rw [UInt32.le_iff_toNat_le] at h
    · have hone : (1 : UInt32).toNat = 1 := rfl
      omega
    · have hone : (1 : UInt32).toNat = 1 := rfl
      omega
  rw [window, hmax]
  rfl

theorem window_range : (0 : Int) ≤ (profile.window : Int) - 1 ∧
    (profile.window : Int) - 1 - 0 + 1 < Draw.Width.modulus .bits64 := by
  have hdays := profile.dateRange.toNat_lt
  have hmodulus : Draw.Width.modulus .bits64 = 18446744073709551616 := rfl
  rw [window_eq, hmodulus]
  omega

section Plain

variable (hplain : profile.base.nanos < Timestamp.nanosPerSecond)
  (hend : profile.base.seconds < Timestamp.endSecond)

include hplain hend

private theorem before_run (seconds : Nat) (stream : WordStream) :
    (profile.before seconds).run stream = (profile.dateBefore seconds, stream) := by
  unfold before dateBefore
  rw [Timestamp.back?_of_plain hplain hend]
  split
  · rename_i found hfound
    split at hfound
    · rename_i hrange
      cases hfound
      rw [if_pos hrange]
      rfl
    · cases hfound
  · rename_i hnone
    split at hnone
    · cases hnone
    · rename_i hrange
      rw [if_neg hrange]
      rfl

private theorem recent_run (stream : WordStream) :
    (profile.recent.run stream).1 =
      profile.dateBefore
        ((Draw.between .bits64 0 ((profile.window : Int) - 1)).run stream).1.toNat := by
  unfold recent
  rw [bind_run, liftM_run]
  exact congrArg Prod.fst (profile.before_run hplain hend _ _)

private theorem exists_recent_run (stream : WordStream) :
    ∃ seconds < profile.window, (profile.recent.run stream).1 = profile.dateBefore seconds := by
  obtain ⟨hrange, hshort⟩ := profile.window_range
  have hdrawn := Draw.gives_between .bits64 hrange hshort stream
  refine ⟨_, ?_, profile.recent_run hplain hend stream⟩
  omega

private theorem recent_ones :
    (profile.recent.run (Draw.ones 0)).1 = profile.dateBefore (profile.window - 1) := by
  obtain ⟨hrange, hshort⟩ := profile.window_range
  have hlast := Draw.between_ones .bits64 hrange hshort 0
  have hseconds : ((profile.window : Int) - 1).toNat = profile.window - 1 := by omega
  rw [profile.recent_run hplain hend, hlast, hseconds]

private theorem recent_outcome (stream : WordStream) :
    (profile.recent.run stream).1 = .error .dateOutOfRange ∨
      ∃ t, (profile.recent.run stream).1 = .ok t ∧ profile.IsRecent t ∧
        t.isRepresentable = true := by
  obtain ⟨seconds, hseconds, hrun⟩ := profile.exists_recent_run hplain hend stream
  rw [hrun]
  unfold dateBefore
  split
  · rename_i hfirst
    right
    refine ⟨_, rfl, ⟨?_, ?_, rfl⟩, ?_⟩
    · show profile.base.seconds - profile.window < profile.base.seconds - seconds
      omega
    · show profile.base.seconds - seconds ≤ profile.base.seconds
      omega
    · have hbelow : profile.base.seconds - seconds < Timestamp.endSecond := by omega
      exact Bool.and_eq_true_iff.2 ⟨decide_eq_true hfirst, decide_eq_true hbelow⟩
  · exact .inl rfl

/-- A date is drawn from every stream exactly where the window begins among the dates that can be
represented. -/
private theorem draws_recent_iff :
    (∀ stream, ∃ t, (profile.recent.run stream).1 = .ok t) ↔
      Timestamp.firstSecond ≤ profile.base.seconds - profile.window + 1 := by
  obtain ⟨hrange, -⟩ := profile.window_range
  have hok (seconds : Nat) : (∃ t, profile.dateBefore seconds = .ok t) ↔
      Timestamp.firstSecond ≤ profile.base.seconds - seconds := by
    unfold dateBefore
    split
    · rename_i hfirst
      exact iff_of_true ⟨_, rfl⟩ hfirst
    · rename_i hfirst
      exact iff_of_false (by rintro ⟨_, ⟨⟩⟩) hfirst
  constructor
  · intro hall
    obtain ⟨t, ht⟩ := hall (Draw.ones 0)
    rw [profile.recent_ones hplain hend] at ht
    have hfirst := (hok _).1 ⟨t, ht⟩
    omega
  · intro hfirst stream
    obtain ⟨seconds, hseconds, hrun⟩ := profile.exists_recent_run hplain hend stream
    rw [hrun, hok]
    omega

end Plain

end MockProfile

namespace Sampler

/-- Every date that a sampler draws as a recent one is less than the window before the base, not
after it, and can be represented; and a date is drawn from every stream exactly where the window is
not longer than 96485015 days. Beyond that there are streams on which the sampler stops. -/
theorem recent_drawn_iff (resources : MockResources) (document : Document)
    (config : GeneratorConfig) :
    let profile := (ofConfig resources document config).profile
    (∀ stream, (profile.recent.run stream).1 = .error .dateOutOfRange ∨
      ∃ t, (profile.recent.run stream).1 = .ok t ∧ profile.IsRecent t ∧
        t.isRepresentable = true) ∧
      ((∀ stream, ∃ t, (profile.recent.run stream).1 = .ok t) ↔
        config.mockDateRange.toNat ≤ 96485015) := by
  intro profile
  have hplain : profile.base.nanos < Timestamp.nanosPerSecond := by
    show Timestamp.start2024.nanos < _
    decide
  have hend : profile.base.seconds < Timestamp.endSecond := by
    show Timestamp.start2024.seconds < _
    decide
  refine ⟨profile.recent_outcome hplain hend, (profile.draws_recent_iff hplain hend).trans ?_⟩
  have hbase : profile.base.seconds = 1704067200 := by
    show Timestamp.start2024.seconds = _
    decide
  have hfirst : Timestamp.firstSecond = -8334601228800 := by decide
  have hwindow : profile.window = max config.mockDateRange.toNat 1 * 86400 := profile.window_eq
  rw [hbase, hfirst, hwindow]
  omega

/-- The longest window that settings can state is taken over without an issue, and the first date
of the stream of seed nought lies beyond the dates that can be represented. -/
theorem recent_out_of_range :
    let parsed := ParsedConfig.ofValues (.ofList [("mockDateRange", "4294967295")])
    let field := { Field.bare "at" .scalar "DateTime" with isRequired := true }
    parsed.isClean = true ∧ parsed.config.mockDateRange = 4294967295 ∧
      (((ofConfig .standard ⟨[Model.bare "Log" [field]], [], []⟩ parsed.config).sample "Log" 1).run
        (.ofSeed 0)).1 = .error .dateOutOfRange := by
  decide +kernel

end Sampler

end SchemaMocks
