import Mathlib.Data.List.Nodup
import Mathlib.Data.List.Perm.Subperm
import Mathlib.Data.String.Basic
import SchemaMocks.Datamodel.RelationGraph

set_option autoImplicit false
set_option relaxedAutoImplicit false

/-!
Sorting a relation graph. While nodes are placed, the count of each node is the number of its edges
from nodes not yet placed, and the ready nodes are the free ones: those without such edges that are
not placed themselves. So every node is placed while it is the least free one, and a sorting ends
where no node is free.
-/

namespace SchemaMocks

namespace RelationGraph

structure WellFormed (g : RelationGraph) : Prop where
  closed : ∀ {source target : String}, target ∈ g.targetsOf source → target ∈ g.nodes
  distinct : ∀ source : String, (g.targetsOf source).Nodup

def openEdges (g : RelationGraph) (placed : List String) (node : String) : Nat :=
  g.nodes.countP fun source => decide (source ∉ placed ∧ node ∈ g.targetsOf source)

structure IsFree (g : RelationGraph) (placed : List String) (node : String) : Prop where
  mem : node ∈ g.nodes
  fresh : node ∉ placed
  sources : ∀ {source : String}, node ∈ g.targetsOf source → source ∈ placed

inductive Greedy (g : RelationGraph) : List String → Prop
  | nil : Greedy g []
  | snoc {order : List String} {node : String} : Greedy g order → g.IsFree order node →
      (∀ other, g.IsFree order other → node ≤ other) → Greedy g (order ++ [node])

section Edges

variable {g : RelationGraph} {placed : List String} {node source target : String}

theorem source_mem_nodes (h : target ∈ g.targetsOf source) : source ∈ g.nodes := by
  rw [nodes, Dictionary.mem_keys]
  cases hs : g.targets.get? source with
  | none => simp [targetsOf, hs] at h
  | some targets => rfl

private theorem openEdges_eq_zero_iff :
    g.openEdges placed node = 0 ↔
      ∀ {source : String}, node ∈ g.targetsOf source → source ∈ placed := by
  simp only [openEdges, List.countP_eq_zero, decide_eq_true_eq, not_and]
  constructor
  · intro h source hs
    by_contra hp
    exact h source (source_mem_nodes hs) hp hs
  · intro h source _ hp hs
    exact hp (h hs)

private theorem isFree_iff : g.IsFree placed node ↔
    node ∈ g.nodes ∧ node ∉ placed ∧ g.openEdges placed node = 0 :=
  ⟨fun h => ⟨h.mem, h.fresh, openEdges_eq_zero_iff.2 h.sources⟩,
    fun h => ⟨h.1, h.2.1, openEdges_eq_zero_iff.1 h.2.2⟩⟩

private theorem countP_eq_add_of_mem {α : Type} [DecidableEq α] {l : List α} (nodup : l.Nodup)
    {a : α} (ha : a ∈ l) (p : α → Bool) :
    l.countP p = (l.countP fun x => p x && decide (x ≠ a)) + if p a then 1 else 0 := by
  have hperm := List.perm_cons_erase ha
  have hrest : (l.erase a).countP p = (l.erase a).countP fun x => p x && decide (x ≠ a) := by
    refine List.countP_congr fun x hx => ?_
    have hne : x ≠ a := (List.Nodup.mem_erase_iff nodup).1 hx |>.1
    simp [hne]
  rw [hperm.countP_eq, hperm.countP_eq, List.countP_cons, List.countP_cons, hrest]
  simp

private theorem openEdges_append (hmem : node ∈ g.nodes) (fresh : node ∉ placed) (target : String) :
    g.openEdges placed target =
      g.openEdges (placed ++ [node]) target + if target ∈ g.targetsOf node then 1 else 0 := by
  have hnodup : g.nodes.Nodup := g.targets.nodup_keys
  rw [openEdges, countP_eq_add_of_mem hnodup hmem, openEdges]
  congr 1
  · refine List.countP_congr fun source _ => ?_
    simp only [Bool.and_eq_true, decide_eq_true_eq, List.mem_append, List.mem_singleton]
    tauto
  · simp [fresh]

end Edges

section Greedy

variable {g : RelationGraph} {order : List String} {node source : String}

theorem Greedy.nodup (hg : g.Greedy order) : order.Nodup := by
  induction hg with
  | nil => exact List.nodup_nil
  | snoc _ free _ ih => exact List.nodup_append_comm.1 (List.nodup_cons.2 ⟨free.fresh, ih⟩)

theorem Greedy.subset (hg : g.Greedy order) : order ⊆ g.nodes := by
  induction hg with
  | nil => exact List.nil_subset _
  | snoc _ free _ ih => exact List.append_subset.2 ⟨ih, by simpa using free.mem⟩

private theorem Greedy.nodes_subset_iff (hg : g.Greedy order) :
    g.nodes ⊆ order ↔ order.length = g.nodes.length := by
  have hsub : order.Subperm g.nodes := List.subperm_of_subset hg.nodup hg.subset
  constructor
  · intro h
    exact Nat.le_antisymm hsub.length_le (List.subperm_of_subset g.targets.nodup_keys h).length_le
  · intro hlength
    exact (hsub.perm_of_length_le hlength.ge).symm.subset

theorem Greedy.source_first (hg : g.Greedy order) (hmem : node ∈ order)
    (hedge : node ∈ g.targetsOf source) :
    source ∈ order ∧ order.idxOf source < order.idxOf node := by
  induction hg with
  | nil => cases hmem
  | @snoc order last _ free _ ih =>
    by_cases hnode : node ∈ order
    · obtain ⟨hsource, hlt⟩ := ih hnode
      rw [List.idxOf_append_of_mem hsource, List.idxOf_append_of_mem hnode]
      exact ⟨List.mem_append_left _ hsource, hlt⟩
    · obtain rfl : node = last := by simpa [hnode] using hmem
      have hsource := free.sources hedge
      rw [List.idxOf_append_of_mem hsource, List.idxOf_append_of_notMem hnode]
      have hlt := List.idxOf_lt_length_of_mem hsource
      exact ⟨List.mem_append_left _ hsource, by omega⟩

end Greedy

variable {g : RelationGraph}

namespace Sorting

variable {s t : Sorting} {node target : String}

section Release

@[simp] private theorem release_order (s : Sorting) (target : String) :
    (s.release target).order = s.order := by
  unfold release
  split
  · rfl
  · dsimp only
    split <;> rfl

private theorem release_pending (s : Sorting) (target node : String) :
    (s.release target).pending.get? node =
      (s.pending.get? node).map fun count => if node = target then count - 1 else count := by
  have hinsert (count : Nat) (h : s.pending.get? target = some count) :
      (s.pending.insert target (count - 1)).get? node =
        (s.pending.get? node).map fun count => if node = target then count - 1 else count := by
    rw [Dictionary.get?_insert]
    by_cases hnode : target = node
    · simp [← hnode, h]
    · simp [hnode, Ne.symm hnode]
  unfold release
  split
  · rename_i h
    by_cases hnode : node = target
    · simp [hnode, h]
    · simp [hnode]
  · rename_i count h
    dsimp only
    split <;> exact hinsert count h

private theorem mem_release_ready (s : Sorting) (target node : String) :
    node ∈ (s.release target).ready.keys ↔
      node ∈ s.ready.keys ∨ node = target ∧ ∃ count ≤ 1, s.pending.get? node = some count := by
  unfold release
  split
  · rename_i h
    have hno : ¬(node = target ∧ ∃ count ≤ 1, s.pending.get? node = some count) := by
      rintro ⟨rfl, _, _, hsome⟩
      rw [h] at hsome
      cases hsome
    simp [hno]
  · rename_i count h
    dsimp only
    split
    · rename_i hcount
      have hle : count ≤ 1 := by omega
      rw [Dictionary.mem_keys_insert]
      constructor
      · rintro (rfl | hmem)
        · exact Or.inr ⟨rfl, count, hle, h⟩
        · exact Or.inl hmem
      · rintro (hmem | ⟨rfl, _⟩)
        · exact Or.inr hmem
        · exact Or.inl rfl
    · rename_i hcount
      have hno : ¬(node = target ∧ ∃ count ≤ 1, s.pending.get? node = some count) := by
        rintro ⟨rfl, c, hle, hsome⟩
        rw [h] at hsome
        cases hsome
        omega
      simp [hno]

private theorem foldl_release {targets : List String} (distinct : targets.Nodup) (s : Sorting) :
    (targets.foldl release s).order = s.order ∧
      (∀ node, (targets.foldl release s).pending.get? node =
        (s.pending.get? node).map fun count => if node ∈ targets then count - 1 else count) ∧
      ∀ node, node ∈ (targets.foldl release s).ready.keys ↔
        node ∈ s.ready.keys ∨
          node ∈ targets ∧ ∃ count ≤ 1, s.pending.get? node = some count := by
  induction targets generalizing s with
  | nil => simp
  | cons target rest ih =>
    obtain ⟨hfresh, hrest⟩ := List.nodup_cons.1 distinct
    obtain ⟨horder, hpending, hready⟩ := ih hrest (s.release target)
    refine ⟨by simpa using horder, fun node => ?_, fun node => ?_⟩
    · rw [List.foldl_cons, hpending, release_pending, Option.map_map]
      congr 1
      funext count
      by_cases hnode : node = target
      · simp [hnode, hfresh]
      · simp [hnode]
    · rw [List.foldl_cons, hready, mem_release_ready, release_pending]
      by_cases hnode : node = target
      · simp [hnode, hfresh]
      · simp [hnode]

end Release

/-- What holds of a sorting under way: the counts are those of the edges from nodes not yet placed,
the ready nodes are the free ones, and the nodes placed were the least free ones. -/
structure Sound (g : RelationGraph) (s : Sorting) : Prop where
  counted : ∀ node, s.pending.get? node =
    if node ∈ g.nodes then some (g.openEdges s.order node) else none
  ready_iff : ∀ node, node ∈ s.ready.keys ↔ g.IsFree s.order node
  greedy : g.Greedy s.order

section Start

private theorem get?_foldl_modify (targets : List String) (d : Dictionary Nat) (node : String) :
    (targets.foldl (fun d target => d.modify target (· + 1)) d).get? node =
      if node ∈ targets then some ((d.get? node).getD 0 + targets.count node)
      else d.get? node := by
  induction targets generalizing d with
  | nil => simp
  | cons target rest ih =>
    rw [List.foldl_cons, ih, Dictionary.get?_modify]
    by_cases hnode : target = node
    · subst hnode
      by_cases hrest : target ∈ rest
      · simp [hrest]
        omega
      · simp [hrest, List.count_eq_zero_of_not_mem hrest]
    · simp [hnode, Ne.symm hnode]

private theorem count_flatMap {entries : List (String × List String)}
    (distinct : ∀ e ∈ entries, e.2.Nodup) (node : String) :
    (entries.flatMap (·.2)).count node = entries.countP fun e => decide (node ∈ e.2) := by
  induction entries with
  | nil => rfl
  | cons e rest ih =>
    rw [List.flatMap_cons, List.count_append, List.countP_cons,
      ih fun e he => distinct e (List.mem_cons_of_mem _ he), Nat.add_comm,
      (distinct e List.mem_cons_self).count]
    simp

private theorem targetsOf_of_mem {e : String × List String} (h : e ∈ g.targets.entries) :
    g.targetsOf e.1 = e.2 := by
  have hget := (g.targets.get?_eq_some_iff e.1 e.2).2 h
  simp [targetsOf, hget]

private theorem get?_indegrees (hg : g.WellFormed) (node : String) :
    g.indegrees.get? node = if node ∈ g.nodes then some (g.openEdges [] node) else none := by
  have hcount : (g.targets.entries.flatMap (·.2)).count node = g.openEdges [] node := by
    rw [count_flatMap fun e he => targetsOf_of_mem he ▸ hg.distinct e.1]
    simp only [openEdges, nodes, Dictionary.keys, List.countP_map]
    refine List.countP_congr fun e he => ?_
    simp [targetsOf_of_mem he]
  have hclosed (h : node ∈ g.targets.entries.flatMap (·.2)) : node ∈ g.nodes := by
    obtain ⟨e, he, hnode⟩ := List.mem_flatMap.1 h
    exact hg.closed (targetsOf_of_mem he ▸ hnode)
  have hzero : (g.targets.mapValues fun _ => 0).get? node =
      if node ∈ g.nodes then some 0 else none := by
    rw [Dictionary.get?_mapValues]
    simp only [nodes, Dictionary.mem_keys]
    cases g.targets.get? node <;> rfl
  rw [indegrees, get?_foldl_modify, hzero, hcount]
  by_cases hnode : node ∈ g.nodes
  · by_cases hmem : node ∈ g.targets.entries.flatMap (·.2)
    · simp [hnode, hmem]
    · have hnone : g.openEdges [] node = 0 := hcount ▸ List.count_eq_zero_of_not_mem hmem
      simp [hnode, hmem, hnone]
  · have hmem : ¬node ∈ g.targets.entries.flatMap (·.2) := fun h => hnode (hclosed h)
    simp [hnode, hmem]

private theorem mem_start_ready : node ∈ (start g).ready.keys ↔ g.indegrees.get? node = some 0 := by
  simp only [start, Dictionary.mem_keys_ofList, Dictionary.get?_eq_some_iff]
  simp

private theorem start_sound (hg : g.WellFormed) : Sound g (start g) where
  counted := get?_indegrees hg
  ready_iff node := by
    rw [mem_start_ready, get?_indegrees hg, isFree_iff]
    by_cases hnode : node ∈ g.nodes
    · simp [hnode, start]
    · simp [hnode]
  greedy := .nil

end Start

section Step

private theorem next?_eq_some (h : s.next? g = some t) : ∃ node rest,
    s.ready.keys = node :: rest.keys ∧
      t = (g.targetsOf node).foldl release ⟨s.order ++ [node], s.pending, rest⟩ := by
  obtain ⟨⟨node, rest⟩, htake, rfl⟩ := Option.map_eq_some_iff.1 h
  exact ⟨node, rest, Dictionary.keys_of_takeFirst?_eq_some htake, rfl⟩

private theorem isFree_append_iff (hg : g.WellFormed) (hs : Sound g s)
    (free : g.IsFree s.order node) :
    g.IsFree (s.order ++ [node]) target ↔
      (g.IsFree s.order target ∧ target ≠ node) ∨
        target ∈ g.targetsOf node ∧ g.openEdges s.order target ≤ 1 := by
  have hopen := openEdges_append free.mem free.fresh target
  rw [isFree_iff, isFree_iff, List.mem_append, List.mem_singleton, not_or]
  constructor
  · rintro ⟨hmem, ⟨hfresh, hne⟩, hzero⟩
    by_cases hedge : target ∈ g.targetsOf node
    · exact Or.inr ⟨hedge, by simp [hopen, hzero, hedge]⟩
    · exact Or.inl ⟨⟨hmem, hfresh, by simp [hopen, hzero, hedge]⟩, hne⟩
  · rintro (⟨⟨hmem, hfresh, hzero⟩, hne⟩ | ⟨hedge, hle⟩)
    · exact ⟨hmem, ⟨hfresh, hne⟩, by omega⟩
    · rw [if_pos hedge] at hopen
      refine ⟨hg.closed hedge, ⟨fun hplaced => ?_, ?_⟩, by omega⟩
      · exact free.fresh (hs.greedy.source_first hplaced hedge).1
      · rintro rfl
        exact free.fresh (free.sources hedge)

private theorem next?_sound (hg : g.WellFormed) (hs : Sound g s) (h : s.next? g = some t) :
    Sound g t ∧ t.order.length = s.order.length + 1 := by
  obtain ⟨node, rest, hkeys, rfl⟩ := next?_eq_some h
  have hpairwise := hkeys ▸ s.ready.pairwise_keys
  obtain ⟨hless, -⟩ := List.pairwise_cons.1 hpairwise
  have hready (x : String) : g.IsFree s.order x ↔ x = node ∨ x ∈ rest.keys := by
    rw [← hs.ready_iff, hkeys, List.mem_cons]
  have free : g.IsFree s.order node := (hready node).2 (Or.inl rfl)
  obtain ⟨horder, hpending, hmem⟩ :=
    foldl_release (hg.distinct node) ⟨s.order ++ [node], s.pending, rest⟩
  refine ⟨⟨fun x => ?_, fun x => ?_, ?_⟩, by simp [horder]⟩
  · rw [hpending, hs.counted, horder]
    by_cases hx : x ∈ g.nodes
    · have hopen := openEdges_append free.mem free.fresh x
      by_cases hedge : x ∈ g.targetsOf node <;> simp [hx, hedge, hopen]
    · simp [hx]
  · have hrest : x ∈ rest.keys ↔ g.IsFree s.order x ∧ x ≠ node := by
      rw [hready]
      constructor
      · exact fun hx => ⟨Or.inr hx, (String.ne_of_lt (hless x hx)).symm⟩
      · rintro ⟨hx | hx, hne⟩
        · exact absurd hx hne
        · exact hx
    have hcount : (x ∈ g.targetsOf node ∧ ∃ count ≤ 1, s.pending.get? x = some count) ↔
        x ∈ g.targetsOf node ∧ g.openEdges s.order x ≤ 1 := by
      rw [hs.counted]
      constructor
      · rintro ⟨hedge, count, hle, hsome⟩
        rw [if_pos (hg.closed hedge)] at hsome
        cases hsome
        exact ⟨hedge, hle⟩
      · rintro ⟨hedge, hle⟩
        exact ⟨hedge, _, hle, if_pos (hg.closed hedge)⟩
    rw [hmem, horder, isFree_append_iff hg hs free, hrest, hcount]
  · rw [horder]
    refine hs.greedy.snoc free fun other hother => ?_
    rcases (hready other).1 hother with rfl | hx
    · exact le_rfl
    · exact String.not_lt.1 (String.lt_asymm (hless other hx))

end Step

section Run

private theorem next?_eq_none_iff (hs : Sound g s) :
    s.next? g = none ↔ ∀ node, ¬g.IsFree s.order node := by
  rw [next?, Option.map_eq_none_iff, Dictionary.takeFirst?_eq_none_iff,
    List.eq_nil_iff_forall_not_mem]
  exact forall_congr' fun node => not_congr (hs.ready_iff node)

private theorem run_sound (hg : g.WellFormed) (count : Nat) (hs : Sound g s) :
    Sound g (run g count s) ∧
      ((∀ node, ¬g.IsFree (run g count s).order node) ∨
        (run g count s).order.length = s.order.length + count) := by
  induction count generalizing s with
  | zero => exact ⟨hs, Or.inr rfl⟩
  | succ count ih =>
    rw [run]
    split
    · rename_i t hnext
      obtain ⟨ht, hlength⟩ := next?_sound hg hs hnext
      obtain ⟨hrun, hend⟩ := ih ht
      exact ⟨hrun, hend.imp id fun h => by omega⟩
    · rename_i hnext
      exact ⟨hs, Or.inl ((next?_eq_none_iff hs).1 hnext)⟩

private theorem run_start (hg : g.WellFormed) :
    Sound g (run g g.nodes.length (start g)) ∧
      ∀ node, ¬g.IsFree (run g g.nodes.length (start g)).order node := by
  obtain ⟨hs, hend⟩ := run_sound hg g.nodes.length (start_sound hg)
  refine ⟨hs, fun node free => ?_⟩
  rcases hend with hend | hlength
  · exact hend node free
  · have hall := hs.greedy.nodes_subset_iff.2 (by simpa [start] using hlength)
    exact free.fresh (hall free.mem)

end Run

end Sorting

/-- What sorting gives: the nodes in the order in which they are the least free ones; where some
node is not free after that, the nodes that were not placed. -/
theorem sort_eq (hg : g.WellFormed) : ∃ order, g.Greedy order ∧
    (∀ node, ¬g.IsFree order node) ∧
    g.sort = if g.nodes ⊆ order then .ok order
      else .error (g.nodes.filter fun node => decide (node ∉ order)) := by
  obtain ⟨hs, hend⟩ := Sorting.run_start hg
  refine ⟨_, hs.greedy, hend, ?_⟩
  rw [sort]
  generalize Sorting.run g g.nodes.length (Sorting.start g) = s at *
  have hnodup : g.nodes.Nodup := g.targets.nodup_keys
  have hplaced := hs.greedy.nodes_subset_iff
  have hkeys : s.pending.keys = g.nodes := by
    refine List.Perm.eq_of_pairwise (fun a b _ _ hab hba => absurd hab (String.lt_asymm hba))
      s.pending.pairwise_keys g.targets.pairwise_keys ?_
    refine (List.perm_ext_iff_of_nodup s.pending.nodup_keys hnodup).2 fun node => ?_
    rw [Dictionary.mem_keys, hs.counted]
    by_cases hnode : node ∈ g.nodes <;> simp [hnode]
  have hleft : (s.pending.entries.filter fun entry => decide (0 < entry.2)).map (·.1) =
      g.nodes.filter fun node => decide (node ∉ s.order) := by
    rw [← hkeys, Dictionary.keys, List.filter_map]
    congr 1
    refine List.filter_congr fun e he => ?_
    have hget := (s.pending.get?_eq_some_iff e.1 e.2).2 he
    have hnode : e.1 ∈ g.nodes := hkeys ▸ List.mem_map_of_mem he
    rw [hs.counted, if_pos hnode, Option.some_inj] at hget
    have hfree := hend e.1
    rw [isFree_iff] at hfree
    by_cases hmem : e.1 ∈ s.order
    · have hzero : e.2 = 0 := hget ▸ openEdges_eq_zero_iff.2 fun h =>
        (hs.greedy.source_first hmem h).1
      simp [hmem, hzero]
    · have hpos : 0 < e.2 := by
        rw [Nat.pos_iff_ne_zero]
        exact fun hzero => hfree ⟨hnode, hmem, hget.trans hzero⟩
      simp [hmem, hpos]
  rw [hleft]
  by_cases h : g.nodes ⊆ s.order
  · rw [if_pos h, if_pos (hplaced.1 h)]
  · rw [if_neg h, if_neg fun hlength => h (hplaced.2 hlength)]

end RelationGraph

end SchemaMocks
