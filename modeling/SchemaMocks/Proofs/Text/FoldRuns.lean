import Mathlib.Data.List.Chain
import SchemaMocks.Proofs.Text.Folding

set_option autoImplicit false
set_option relaxedAutoImplicit false

/-!
Case folding by its runs. The runs stand in order, so that a character lies in one of them at most,
and no run leads to a character that lies in a run: folding twice is folding once. The characters
that the runs lead to a folded one are its siblings.
-/

namespace SchemaMocks.Text

namespace CaseRun

variable {run other : CaseRun} {n : Nat}

private theorem covers_iff :
    run.covers n = true ↔ run.first ≤ n ∧ n ≤ run.last ∧ (n - run.first) % run.step = 0 := by
  simp [covers, and_assoc]

def members (run : CaseRun) : List Nat :=
  (List.range ((run.last - run.first) / run.step + 1)).map fun i => run.first + i * run.step

theorem mem_members_of_covers (h : run.covers n = true) : n ∈ run.members := by
  obtain ⟨hfirst, hlast, hstep⟩ := covers_iff.1 h
  have hplace : (n - run.first) / run.step * run.step = n - run.first :=
    Nat.div_mul_cancel (Nat.dvd_of_mod_eq_zero hstep)
  refine List.mem_map.2 ⟨(n - run.first) / run.step, List.mem_range.2 ?_, by omega⟩
  exact Nat.lt_succ_of_le (Nat.div_le_div_right (by omega))

def image (run : CaseRun) (n : Nat) : Nat :=
  Int.toNat (n + run.shift)

def Precedes (run other : CaseRun) : Prop :=
  run.first ≤ run.last ∧ run.last < other.first

instance (run other : CaseRun) : Decidable (run.Precedes other) :=
  inferInstanceAs (Decidable (_ ∧ _))

instance : Trans Precedes Precedes Precedes where
  trans h h' := ⟨h.1, Nat.lt_trans (Nat.lt_of_lt_of_le h.2 h'.1) h'.2⟩

end CaseRun

section Bits

def bits (ns : List Nat) : Nat :=
  ns.foldr (fun n m => m ||| 1 <<< n) 0

private theorem testBit_bits {ns : List Nat} {n : Nat} : (bits ns).testBit n = true ↔ n ∈ ns := by
  induction ns with
  | nil => simp [bits]
  | cons m rest ih =>
    rw [bits, List.foldr_cons, ← bits, Nat.testBit_or, Bool.or_eq_true, ih, Nat.one_shiftLeft,
      Nat.testBit_two_pow, decide_eq_true_iff, List.mem_cons, or_comm, eq_comm]

private theorem notMem_of_bits {ns ms : List Nat} {n : Nat} (h : bits ns &&& bits ms = 0)
    (hn : n ∈ ns) :
    n ∉ ms := by
  intro hm
  have hboth : (bits ns &&& bits ms).testBit n = true := by
    rw [Nat.testBit_and, testBit_bits.2 hn, testBit_bits.2 hm, Bool.and_self]
  rw [h, Nat.zero_testBit] at hboth
  cases hboth

end Bits

open CaseRun

variable {run other : CaseRun} {n : Nat} {c d : Char}

private theorem foldRuns_ordered : foldRuns.Pairwise Precedes :=
  List.isChain_iff_pairwise.1 (by decide +kernel)

private theorem foldRuns_valid : ∀ run ∈ foldRuns, 0x41 ≤ run.first ∧
    (run.last < 0xD800 ∨ 0xE000 ≤ run.first ∧ run.last < 0x110000) := by
  decide +kernel

private theorem foldRuns_apart : bits (foldRuns.flatMap fun run => run.members.map run.image) &&&
    bits (foldRuns.flatMap members) = 0 := by
  decide +kernel

private theorem not_covers_image (hrun : run ∈ foldRuns) (hother : other ∈ foldRuns)
    (h : run.covers n = true) : other.covers (run.image n) = false := by
  rw [Bool.eq_false_iff]
  intro himage
  refine notMem_of_bits foldRuns_apart (n := run.image n) ?_ ?_
  · exact List.mem_flatMap.2 ⟨run, hrun, List.mem_map_of_mem (mem_members_of_covers h)⟩
  · exact List.mem_flatMap.2 ⟨other, hother, mem_members_of_covers himage⟩

private theorem eq_of_covers (hrun : run ∈ foldRuns) (hother : other ∈ foldRuns)
    (hn : run.covers n = true) (hn' : other.covers n = true) : run = other := by
  obtain ⟨i, hi, rfl⟩ := List.mem_iff_getElem.1 hrun
  obtain ⟨j, hj, rfl⟩ := List.mem_iff_getElem.1 hother
  have hordered := List.pairwise_iff_getElem.1 foldRuns_ordered
  obtain ⟨hfirst, hlast, -⟩ := covers_iff.1 hn
  obtain ⟨hfirst', hlast', -⟩ := covers_iff.1 hn'
  rcases Nat.lt_trichotomy i j with hlt | rfl | hlt
  · have hprecedes := (hordered i j hi hj hlt).2
    omega
  · rfl
  · have hprecedes := (hordered j i hj hi hlt).2
    omega

private theorem mapByRuns_of_covers (hrun : run ∈ foldRuns) (h : run.covers c.toNat = true) :
    mapByRuns foldRuns c = Char.ofNat (run.image c.toNat) := by
  unfold mapByRuns
  split
  · rename_i found hfound
    have hcovers : found.covers c.toNat = true := by simpa using List.find?_some hfound
    rw [eq_of_covers (List.mem_of_find?_eq_some hfound) hrun hcovers h]
    rfl
  · rename_i hnone
    exact absurd h (List.find?_eq_none.1 hnone run hrun)

private theorem mapByRuns_of_not_covers {runs : List CaseRun}
    (h : ∀ run ∈ runs, run.covers c.toNat = false) : mapByRuns runs c = c := by
  have hnone : runs.find? (·.covers c.toNat) = none :=
    List.find?_eq_none.2 fun run hrun => by simp [h run hrun]
  rw [mapByRuns, hnone]

private theorem fold_eq_mapByRuns (c : Char) : fold c = mapByRuns foldRuns c := by
  unfold fold
  split
  · rename_i hascii
    have hletters : ∀ n < 0x80, (Char.ofNat n).toLower =
        mapByRuns (foldRuns.take 1) (Char.ofNat n) := by
      decide +kernel
    have hothers : ∀ run ∈ foldRuns.drop 1, 0x80 ≤ run.first := by decide +kernel
    have hfind : foldRuns.find? (·.covers c.toNat) =
        (foldRuns.take 1).find? (·.covers c.toNat) := by
      have hnone : (foldRuns.drop 1).find? (·.covers c.toNat) = none := by
        refine List.find?_eq_none.2 fun run hrun hcovers => ?_
        have hfirst := (covers_iff.1 hcovers).1
        have hlater := hothers run hrun
        omega
      rw [← List.take_append_drop 1 foldRuns, List.find?_append, hnone, Option.or_none,
        List.take_append_drop]
    have hc := hletters c.toNat hascii
    rw [Char.ofNat_toNat] at hc
    rw [hc, mapByRuns, mapByRuns, hfind]
  · rfl

theorem fold_of_not_covers (h : ∀ run ∈ foldRuns, run.covers c.toNat = false) : fold c = c :=
  (fold_eq_mapByRuns c).trans (mapByRuns_of_not_covers h)

theorem fold_fold (c : Char) : fold (fold c) = fold c := by
  by_cases hcovers : ∃ run ∈ foldRuns, run.covers c.toNat = true
  · obtain ⟨run, hrun, hc⟩ := hcovers
    rw [fold_eq_mapByRuns c, mapByRuns_of_covers hrun hc]
    by_cases hzero : Char.ofNat (run.image c.toNat) = '\x00'
    · rw [hzero]
      decide
    · refine fold_of_not_covers fun other hother => ?_
      rw [toNat_ofNat_of_ne_zero hzero]
      exact not_covers_image hrun hother hc
  · have hnone : ∀ run ∈ foldRuns, run.covers c.toNat = false := fun run hrun =>
      Bool.eq_false_iff.2 fun hc => hcovers ⟨run, hrun, hc⟩
    rw [fold_of_not_covers hnone, fold_of_not_covers hnone]

theorem fold_of_mem_foldSiblings (h : d ∈ foldSiblings c) : fold d = fold c := by
  unfold foldSiblings at h
  rcases List.mem_cons.1 h with rfl | hd
  · exact fold_fold c
  · obtain ⟨run, hrun, hsome⟩ := List.mem_filterMap.1 hd
    rw [Option.ite_none_right_eq_some, Option.some.injEq] at hsome
    obtain ⟨hcovers, rfl⟩ := hsome
    generalize hn : Int.toNat ((fold c).toNat - run.shift) = n at hcovers ⊢
    obtain ⟨hleast, hchars⟩ := foldRuns_valid run hrun
    obtain ⟨hfirst, hlast, -⟩ := covers_iff.1 hcovers
    have hvalid : n.isValidChar := by
      rcases hchars with hlow | hhigh
      · exact .inl (by omega)
      · exact .inr ⟨by omega, by omega⟩
    have hnat : (Char.ofNat n).toNat = n := by
      rw [Char.ofNat, dif_pos hvalid]
      rfl
    have htarget : run.image n = (fold c).toNat := by
      unfold image
      omega
    rw [fold_eq_mapByRuns, mapByRuns_of_covers hrun (hnat.symm ▸ hcovers), hnat, htarget,
      Char.ofNat_toNat]

end SchemaMocks.Text
