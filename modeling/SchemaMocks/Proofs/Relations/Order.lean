import Mathlib.Data.Fintype.EquivFin
import Mathlib.Data.Fintype.Sets
import Mathlib.Data.List.Lex
import Mathlib.Logic.Relation
import Mathlib.Order.WellFounded
import SchemaMocks.Proofs.Relations.Sorting
import SchemaMocks.Proofs.Text.ByteOrder

set_option autoImplicit false
set_option relaxedAutoImplicit false

/-!
The order in the report on relations. It exists where no model leads back to itself, and it is the
least of the orders in which every model stands before the models it points at.
-/

namespace SchemaMocks

open Relation (ReflTransGen TransGen)

namespace Document

/-- Whether some model of a name has a relation field that points at a known model. -/
def PointsAt (doc : Document) (source target : String) : Prop :=
  ∃ model ∈ doc.models, model.name = source ∧
    ∃ field ∈ model.fields, field.kind = .relation ∧ field.typeName = target ∧
      ∃ known ∈ doc.models, known.name = target

/-- Orders of the model names in which every name stands before the names it points at. -/
structure IsTopological (doc : Document) (order : List String) : Prop where
  nodup : order.Nodup
  mem_iff : ∀ name, name ∈ order ↔ ∃ model ∈ doc.models, model.name = name
  source_first : ∀ {source target : String}, doc.PointsAt source target →
    order.idxOf source < order.idxOf target

end Document

namespace RelationGraph

section Document

variable (doc : Document) (name source target : String)

private theorem isSome_model? :
    (doc.model? name).isSome ↔ ∃ model ∈ doc.models, model.name = name := by
  simp [Document.model?, List.find?_isSome]

private theorem mem_targetNames :
    target ∈ targetNames doc source ↔ doc.PointsAt source target := by
  simp only [targetNames, mem_sortedDistinct, List.mem_filter, isSome_model?, List.mem_map,
    List.mem_flatMap, Model.relationFields, Field.isRelation, beq_iff_eq, Document.PointsAt]
  constructor
  · rintro ⟨⟨field, ⟨model, ⟨hmodel, hname⟩, hfield, hkind⟩, htype⟩, hknown⟩
    exact ⟨model, hmodel, hname, field, hfield, hkind, htype, hknown⟩
  · rintro ⟨model, hmodel, hname, field, hfield, hkind, htype, hknown⟩
    exact ⟨⟨field, ⟨model, ⟨hmodel, hname⟩, hfield, hkind⟩, htype⟩, hknown⟩

private theorem mem_nodes_ofDocument :
    name ∈ (ofDocument doc).nodes ↔ ∃ model ∈ doc.models, model.name = name := by
  simp [nodes, ofDocument, Dictionary.mem_keys_ofList]

private theorem get?_targets_ofDocument :
    (ofDocument doc).targets.get? source =
      if ∃ model ∈ doc.models, model.name = source then some (targetNames doc source)
      else none := by
  have h := Dictionary.get?_ofList_map (targetNames doc) (doc.models.map (·.name)) source
  simpa [ofDocument, Function.comp_def] using h

theorem mem_targetsOf_ofDocument :
    target ∈ (ofDocument doc).targetsOf source ↔ doc.PointsAt source target := by
  rw [targetsOf, get?_targets_ofDocument]
  split
  · exact mem_targetNames doc source target
  · rename_i hno
    simp only [Option.getD_none, List.not_mem_nil, false_iff]
    rintro ⟨model, hmodel, hname, _⟩
    exact hno ⟨model, hmodel, hname⟩

theorem wellFormed_ofDocument : (ofDocument doc).WellFormed where
  closed h := by
    obtain ⟨_, _, _, _, _, _, _, hknown⟩ := (mem_targetsOf_ofDocument doc _ _).1 h
    exact (mem_nodes_ofDocument doc _).2 hknown
  distinct source := by
    rw [targetsOf, get?_targets_ofDocument]
    split
    · exact nodup_sortedDistinct _
    · exact List.nodup_nil

end Document

section Cycles

private theorem exists_transGen_self {edge : String → String → Prop} {names : List String}
    (sources : ∀ name ∈ names, ∃ source ∈ names, edge source name) (nonempty : names ≠ []) :
    ∃ name ∈ names, TransGen edge name name := by
  by_contra hno
  simp only [not_exists, not_and] at hno
  -- Without a cycle the edges lead down to names without predecessors.
  let before (a b : {name // name ∈ names}) : Prop := TransGen edge a.1 b.1
  have : IsTrans _ before := ⟨fun _ _ _ hab hbc => TransGen.trans hab hbc⟩
  have : Std.Irrefl before := ⟨fun a => hno a.1 a.2⟩
  have hwf : WellFounded before := Finite.wellFounded_of_trans_of_irrefl before
  obtain ⟨name, hname⟩ := List.exists_mem_of_ne_nil names nonempty
  obtain ⟨least, -, hleast⟩ := hwf.has_min Set.univ ⟨⟨name, hname⟩, trivial⟩
  obtain ⟨source, hsource, hedge⟩ := sources least.1 least.2
  exact hleast ⟨source, hsource⟩ trivial (TransGen.single hedge)

variable {doc : Document} {order other : List String}

private theorem Greedy.before_placed (hg : (ofDocument doc).Greedy order) {source target : String}
    (h : TransGen doc.PointsAt source target) (placed : target ∈ order) :
    source ∈ order ∧ order.idxOf source < order.idxOf target := by
  induction h with
  | single hedge => exact hg.source_first placed ((mem_targetsOf_ofDocument doc _ _).2 hedge)
  | tail _ hedge ih =>
    obtain ⟨hmiddle, hlt⟩ := hg.source_first placed ((mem_targetsOf_ofDocument doc _ _).2 hedge)
    obtain ⟨hsource, hfirst⟩ := ih hmiddle
    exact ⟨hsource, hfirst.trans hlt⟩

/-- The names that are left in the end are those that some name on a cycle leads to. -/
theorem Greedy.left_iff (hg : (ofDocument doc).Greedy order)
    (done : ∀ node, ¬(ofDocument doc).IsFree order node) (name : String) :
    (name ∈ (ofDocument doc).nodes ∧ name ∉ order) ↔
      ∃ start, TransGen doc.PointsAt start start ∧ ReflTransGen doc.PointsAt start name := by
  constructor
  · rintro ⟨hname, hleft⟩
    classical
    -- Every name that is left has a source that is left, and so has every name above this one.
    let above := (ofDocument doc).nodes.filter fun node =>
      decide (node ∉ order ∧ ReflTransGen doc.PointsAt node name)
    have habove (node : String) : node ∈ above ↔ node ∈ (ofDocument doc).nodes ∧
        node ∉ order ∧ ReflTransGen doc.PointsAt node name := by
      simp [above]
    have sources : ∀ node ∈ above, ∃ source ∈ above, doc.PointsAt source node := by
      intro node hnode
      obtain ⟨hmem, hplaced, hleads⟩ := (habove node).1 hnode
      by_contra hno
      refine done node ⟨hmem, hplaced, fun {source} hedge => ?_⟩
      by_contra hsource
      have hpoints := (mem_targetsOf_ofDocument doc source node).1 hedge
      exact hno ⟨source, (habove source).2 ⟨source_mem_nodes hedge, hsource,
        ReflTransGen.head hpoints hleads⟩, hpoints⟩
    have nonempty : above ≠ [] :=
      List.ne_nil_of_mem ((habove name).2 ⟨hname, hleft, ReflTransGen.refl⟩)
    obtain ⟨start, hstart, hcycle⟩ := exists_transGen_self sources nonempty
    exact ⟨start, hcycle, ((habove start).1 hstart).2.2⟩
  · rintro ⟨start, hcycle, hleads⟩
    have hbefore : TransGen doc.PointsAt start name := hcycle.trans_left hleads
    obtain ⟨source, -, hedge⟩ := TransGen.tail'_iff.1 hbefore
    refine ⟨(wellFormed_ofDocument doc).closed ((mem_targetsOf_ofDocument doc _ _).2 hedge), ?_⟩
    intro hplaced
    have hstart : start ∈ order := (hg.before_placed hbefore hplaced).1
    exact lt_irrefl _ (hg.before_placed hcycle hstart).2

private theorem Greedy.isTopological (hg : (ofDocument doc).Greedy order)
    (all : (ofDocument doc).nodes ⊆ order) : doc.IsTopological order where
  nodup := hg.nodup
  mem_iff name := by
    rw [← mem_nodes_ofDocument]
    exact ⟨fun h => hg.subset h, fun h => all h⟩
  source_first h := by
    have hedge := (mem_targetsOf_ofDocument doc _ _).2 h
    exact (hg.source_first (all ((wellFormed_ofDocument doc).closed hedge)) hedge).2

/-- All nodes are placed if and only if no name leads back to itself. -/
theorem Greedy.all_placed_iff (hg : (ofDocument doc).Greedy order)
    (done : ∀ node, ¬(ofDocument doc).IsFree order node) :
    (ofDocument doc).nodes ⊆ order ↔ ¬∃ name, TransGen doc.PointsAt name name := by
  constructor
  · rintro all ⟨name, hcycle⟩
    obtain ⟨hname, hleft⟩ := (hg.left_iff done name).2 ⟨name, hcycle, ReflTransGen.refl⟩
    exact hleft (all hname)
  · intro acyclic name hname
    by_contra hleft
    obtain ⟨start, hcycle, -⟩ := (hg.left_iff done name).1 ⟨hname, hleft⟩
    exact acyclic ⟨start, hcycle⟩

end Cycles

section Least

variable {doc : Document} {order other : List String}

private theorem lex_append_of_length_eq {r : String → String → Prop} {xs ys : List String}
    (h : List.Lex r xs ys) (hlength : xs.length = ys.length) (xs' ys' : List String) :
    List.Lex r (xs ++ xs') (ys ++ ys') := by
  induction h with
  | nil => cases hlength
  | cons _ ih => exact .cons (ih (Nat.succ.inj hlength))
  | rel hr => exact .rel hr

private theorem isFree_of_take (h : doc.IsTopological other) {n : Nat} (hn : n < other.length) :
    (ofDocument doc).IsFree (other.take n) other[n] where
  mem := (mem_nodes_ofDocument doc _).2 ((h.mem_iff _).1 (List.getElem_mem hn))
  fresh hmem := by
    obtain ⟨i, hi, heq⟩ := List.mem_take_iff_getElem.1 hmem
    have := h.nodup.getElem_inj_iff.1 heq
    omega
  sources hedge := by
    have hlt := h.source_first ((mem_targetsOf_ofDocument doc _ _).1 hedge)
    rw [h.nodup.idxOf_getElem n hn] at hlt
    rw [List.mem_take_iff_getElem]
    exact ⟨_, by omega, List.getElem_idxOf (by omega)⟩

private theorem Greedy.lex_take (hg : (ofDocument doc).Greedy order) (h : doc.IsTopological other) :
    order.length ≤ other.length ∧ (order = other.take order.length ∨
      List.Lex (· < ·) order (other.take order.length)) := by
  induction hg with
  | nil => exact ⟨Nat.zero_le _, Or.inl rfl⟩
  | @snoc order node hg free least ih =>
    obtain ⟨-, ih⟩ := ih
    have hsub : (order ++ [node]).Subperm other := by
      refine List.subperm_of_subset (hg.snoc free least).nodup fun x hx => ?_
      exact (h.mem_iff x).2 ((mem_nodes_ofDocument doc x).1 ((hg.snoc free least).subset hx))
    have hlength := hsub.length_le
    rw [List.length_append, List.length_singleton] at hlength ⊢
    have htake := List.take_concat_get' other order.length hlength
    refine ⟨hlength, ?_⟩
    rw [← htake]
    rcases ih with heq | hlex
    · have hfree := isFree_of_take h hlength
      rw [← heq] at hfree
      have hle := least _ hfree
      rcases hle.lt_or_eq with hlt | hnode
      · refine Or.inr ?_
        nth_rewrite 1 [heq]
        exact List.Lex.append_left _ (.rel hlt) _
      · exact Or.inl (by rw [← heq, ← hnode])
    · refine Or.inr (lex_append_of_length_eq hlex ?_ _ _)
      rw [List.length_take]
      omega

end Least

end RelationGraph

/-- The report gives an order or a cycle and never both, and an order if and only if no name leads
back to itself. The order is the least one, name by name and byte by byte, in which every name
stands before the names it points at. -/
theorem relationReport_order (doc : Document) :
    (doc.relationReport.order.isSome ↔ doc.relationReport.cycle = none) ∧
      (doc.relationReport.order.isSome ↔ ¬∃ name, TransGen doc.PointsAt name name) ∧
      ∀ order, doc.relationReport.order = some order →
        doc.IsTopological order ∧
          ∀ other, doc.IsTopological other →
            order = other ∨ List.Lex Text.BytesBefore order other := by
  obtain ⟨order, hg, done, hsort⟩ := RelationGraph.sort_eq (RelationGraph.wellFormed_ofDocument doc)
  have hplaced := hg.all_placed_iff done
  have hbytes : (fun s t : String => s < t) = Text.BytesBefore := by
    funext s t
    exact propext (Text.lt_iff_bytesBefore s t)
  simp only [Document.relationReport, hsort]
  by_cases hall : (RelationGraph.ofDocument doc).nodes ⊆ order
  · simp only [if_pos hall, Option.isSome_some, true_iff, Option.some_inj, true_and]
    refine ⟨hplaced.1 hall, ?_⟩
    rintro _ rfl
    have htop := hg.isTopological hall
    refine ⟨htop, fun other hother => ?_⟩
    obtain ⟨hle, hlex⟩ := hg.lex_take hother
    have hlength : other.length ≤ order.length := by
      refine (List.subperm_of_subset hother.nodup fun x hx => ?_).length_le
      exact (htop.mem_iff x).2 ((hother.mem_iff x).1 hx)
    rw [List.take_of_length_le hlength, hbytes] at hlex
    exact hlex
  · have hcycle : ∃ name, TransGen doc.PointsAt name name := by
      by_contra hno
      exact hall (hplaced.2 hno)
    simp [hall, hcycle]

end SchemaMocks
