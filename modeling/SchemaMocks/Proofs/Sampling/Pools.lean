import Mathlib.Data.List.Perm.Subperm
import SchemaMocks.Mock.FieldValue
import SchemaMocks.Mock.Vocabulary
import SchemaMocks.Proofs.Random.Places

set_option autoImplicit false
set_option relaxedAutoImplicit false

/-!
Draws from a pool. Some items of a list are drawn one after the other; each one leaves the pool, and
the last item of the pool moves to its place. What is drawn and what is left are the items of the
list, so that no place of the list is drawn twice, and the pool lasts for as many items as it has.
-/

namespace SchemaMocks

private theorem nodup_of_subperm {α : Type} {part whole : List α} (h : part.Subperm whole)
    (hwhole : whole.Nodup) : part.Nodup := by
  obtain ⟨ordered, hperm, hsub⟩ := h
  exact hperm.nodup_iff.1 (hwhole.sublist hsub)

namespace Draw

variable {α β : Type}

private theorem swapRemove_concat (init : List α) (last : α) (i : Nat) :
    swapRemove (init ++ [last]) i = init.set i last := by
  unfold swapRemove
  rw [List.getLast?_concat]
  dsimp only
  rw [List.dropLast_eq_take, List.length_set, List.take_set, ← List.dropLast_eq_take,
    List.dropLast_concat]

private theorem length_swapRemove (items : List α) (i : Nat) :
    (swapRemove items i).length = items.length - 1 := by
  rcases List.eq_nil_or_concat' items with rfl | ⟨init, last, rfl⟩
  · rfl
  · rw [swapRemove_concat, List.length_set, List.length_append, List.length_singleton,
      Nat.add_sub_cancel]

private theorem map_swapRemove (f : α → β) (items : List α) (i : Nat) :
    swapRemove (items.map f) i = (swapRemove items i).map f := by
  rcases List.eq_nil_or_concat' items with rfl | ⟨init, last, rfl⟩
  · rfl
  · rw [List.map_append, List.map_singleton, swapRemove_concat, swapRemove_concat, List.map_set]

private theorem cons_swapRemove_perm {items : List α} {i : Nat} (hi : i < items.length) :
    (items[i] :: swapRemove items i).Perm items := by
  rcases List.eq_nil_or_concat' items with rfl | ⟨init, last, rfl⟩
  · cases hi
  · rw [swapRemove_concat]
    have hback : (last :: init).Perm (init ++ [last]) := (List.perm_append_singleton last init).symm
    -- The item is another one than the last, which moves to its place, or it is the last one.
    by_cases hinit : i < init.length
    · rw [List.getElem_append_left hinit]
      have hset : (init[i] :: init.set i last).Perm (init[i] :: last :: init.eraseIdx i) :=
        (List.set_perm_cons_eraseIdx hinit last).cons _
      have hfront : (last :: init[i] :: init.eraseIdx i).Perm (last :: init) :=
        (List.getElem_cons_eraseIdx_perm hinit).cons _
      exact hset.trans ((List.Perm.swap last init[i] _).trans (hfront.trans hback))
    · have hlast : i = init.length := by
        rw [List.length_append, List.length_singleton] at hi
        omega
      subst hlast
      rw [List.getElem_concat_length rfl, List.set_eq_of_length_le (Nat.le_refl _)]
      exact hback

private theorem gives_distinct {count : Nat} {pool : List α} (hcount : count ≤ pool.length) :
    Gives (distinct count pool) fun drawn => drawn.length = count ∧ drawn.Subperm pool := by
  induction count generalizing pool with
  | zero => exact gives_pure ⟨rfl, List.nil_subperm⟩
  | succ count ih =>
    unfold distinct
    refine (gives_index (by omega)).bind fun i hi => ?_
    rw [List.getElem?_eq_getElem hi]
    have hrest : count ≤ (swapRemove pool i).length := by
      rw [length_swapRemove]
      omega
    -- What is drawn from the rest is part of the rest, which with this item is the whole pool.
    refine (ih hrest).bind fun drawn hdrawn => gives_pure ⟨?_, ?_⟩
    · rw [List.length_cons, hdrawn.1]
    · exact ((List.subperm_cons pool[i]).2 hdrawn.2).trans (cons_swapRemove_perm hi).subperm

private theorem distinct_map (f : α → β) (count : Nat) (pool : List α) :
    distinct count (pool.map f) = List.map f <$> distinct count pool := by
  induction count generalizing pool with
  | zero => rfl
  | succ count ih =>
    unfold distinct
    rw [map_bind, List.length_map]
    congr 1
    funext i
    rw [List.getElem?_map]
    cases pool[i]? with
    | none => rfl
    | some item =>
      simp only [Option.map_some, map_swapRemove, ih, map_bind, bind_map_left, map_pure,
        List.map_cons]

private theorem subset_map (f : α → β) (items : List α) :
    subset (items.map f) = List.map f <$> subset items := by
  unfold subset
  rw [List.isEmpty_map, List.length_map]
  split
  · rfl
  · simp only [map_bind, distinct_map]

private theorem gives_subset {items : List α} (hfits : items.length < Width.modulus .bits64) :
    Gives (subset items) fun drawn => (drawn = [] ↔ items = []) ∧ drawn.Subperm items := by
  unfold subset
  split
  · rename_i hempty
    exact gives_pure ⟨by simpa using hempty, List.nil_subperm⟩
  · rename_i hsome
    have hlength : 0 < items.length := List.length_pos_iff.2 (by simpa using hsome)
    refine (gives_between .bits64 (by omega) (by omega)).bind fun count hcount => ?_
    have hpool : count.toNat ≤ items.length := by omega
    refine (gives_distinct hpool).mono fun drawn hdrawn => ⟨?_, hdrawn.2⟩
    rw [← List.length_eq_zero_iff, ← List.length_eq_zero_iff, hdrawn.1]
    omega

private theorem subset_places {items : List α} (hfits : items.length < Width.modulus .bits64)
    (stream : WordStream) :
    ∃ places : List (Fin items.length), places.Nodup ∧
      ((subset items).run stream).1 = places.map items.get := by
  have hlength : (List.finRange items.length).length < Width.modulus .bits64 := by
    rwa [List.length_finRange]
  -- Drawing from the places themselves tells which places are drawn.
  refine ⟨((subset (List.finRange items.length)).run stream).1, ?_, ?_⟩
  · exact nodup_of_subperm (gives_subset hlength stream).2 (List.nodup_finRange _)
  · have hmap := congrArg (fun draw => (draw.run stream).1)
      (subset_map items.get (List.finRange items.length))
    rw [List.map_get_finRange] at hmap
    exact hmap

end Draw

namespace GuardedDraw

variable {α : Type}

/-- Takes the item at a place out of a pool, which must have that place. -/
def takeOut (pool : List α) (i : Nat) : GuardedDraw (α × List α) := do
  return (← item pool i, Draw.swapRemove pool i)

def distinct : Nat → List α → GuardedDraw (List α)
  | 0, _ => return []
  | count + 1, pool => do
    let (item, rest) ← takeOut pool (← place pool.length)
    return item :: (← distinct count rest)

def subset (items : List α) : GuardedDraw (List α) := do
  if items.isEmpty then return []
  else
    let count ← liftM (Draw.between .bits64 1 items.length)
    distinct count.toNat items

private theorem distinct_eq_lift {count : Nat} {pool : List α} (hcount : count ≤ pool.length) :
    distinct count pool = liftM (Draw.distinct count pool) := by
  induction count generalizing pool with
  | zero => rw [distinct, Draw.distinct, liftM_pure]
  | succ count ih =>
    have hpool : pool ≠ [] := List.ne_nil_of_length_pos (by omega)
    unfold distinct Draw.distinct
    refine place_bind hpool fun i hi => ?_
    have hrest : count ≤ (Draw.swapRemove pool i).length := by
      rw [Draw.length_swapRemove]
      omega
    rw [takeOut, item_of_lt hi, List.getElem?_eq_getElem hi]
    simp only [pure_bind, ih hrest, liftM_bind, liftM_pure]

private theorem subset_eq_lift {items : List α}
    (hfits : items.length < Draw.Width.modulus .bits64) :
    subset items = liftM (Draw.subset items) := by
  unfold subset Draw.subset
  split
  · rw [liftM_pure]
  · rename_i hsome
    have hlength : 0 < items.length := List.length_pos_iff.2 (by simpa using hsome)
    rw [liftM_bind]
    refine lift_bind_congr (Draw.gives_between .bits64 (by omega) (by omega)) fun count hcount => ?_
    exact distinct_eq_lift (by omega)

end GuardedDraw

namespace Directive

/-- In a list field the texts of an enumeration give a list of texts: none where there are none, else
at least one and at most all. They stand at places of the enumeration that are all different, so that
none is drawn more often than it is written, and none twice where all are different. The pool of texts
is not empty when a place in it is drawn, and it has the place. Every list that fits in memory has
fewer items than there are words. -/
theorem options_drawn_once (profile : MockProfile) (fieldName : String)
    (scalar : Option ScalarType) {options : List String}
    (hfits : options.length < Draw.Width.modulus .bits64) (s : ValueState) :
    let drawn := (Draw.subset options).run s.stream
    ((enum options).listValue profile fieldName scalar).run s =
        (.ok (.list (drawn.1.map .text)), { s with stream := drawn.2 }) ∧
      (drawn.1 = [] ↔ options = []) ∧
      (options ≠ [] → 1 ≤ drawn.1.length ∧ drawn.1.length ≤ options.length) ∧
      (∃ places : List (Fin options.length), places.Nodup ∧ drawn.1 = places.map options.get) ∧
      drawn.1.Subperm options ∧ (options.Nodup → drawn.1.Nodup) ∧
      GuardedDraw.subset options = liftM (Draw.subset options) := by
  intro drawn
  obtain ⟨hempty, hsubperm⟩ := Draw.gives_subset hfits s.stream
  refine ⟨rfl, hempty, fun hsome => ⟨?_, hsubperm.length_le⟩, Draw.subset_places hfits s.stream,
    hsubperm, nodup_of_subperm hsubperm, GuardedDraw.subset_eq_lift hfits⟩
  exact List.length_pos_iff.2 fun hnone => hsome (hempty.1 hnone)

/-- Of four texts, two of which are the same, three are drawn on the stream of seed three. -/
theorem options_drawn_once_colors :
    let options := ["red", "green", "red", "blue"]
    let s : ValueState := ⟨.ofSeed 3, .empty, []⟩
    options.length < Draw.Width.modulus .bits64 ∧ options ≠ [] ∧
      ((enum options).listValue ⟨.english, Timestamp.start2024, 30, .standard⟩ "colors" none).run s =
        (.ok (.list [.text "red", .text "red", .text "green"]),
          { s with stream := ((Draw.subset options).run s.stream).2 }) ∧
      ∃ places : List (Fin 4), places.Nodup ∧ ["red", "red", "green"] = places.map options.get := by
  intro options s
  have hfits : options.length < Draw.Width.modulus .bits64 := by decide
  have hdrawn : ((Draw.subset options).run s.stream).1 = ["red", "red", "green"] := by
    decide +kernel
  obtain ⟨hvalue, -, -, hplaces, -⟩ :=
    options_drawn_once ⟨.english, Timestamp.start2024, 30, .standard⟩ "colors" none hfits s
  rw [hdrawn] at hvalue hplaces
  exact ⟨hfits, List.cons_ne_nil _ _, hvalue, hplaces⟩

end Directive

end SchemaMocks
