import SchemaMocks.Proofs.Config.Stated
import SchemaMocks.Toml.Reader

set_option autoImplicit false
set_option relaxedAutoImplicit false

/-!
The order of keys in settings files. Tables under construction hold their entries as they come; a
table that was read has its keys in ascending order, and so has every table within it.
-/

namespace SchemaMocks

private theorem Entries.forall_mem_ofList {α : Type} {P : String × α → Prop}
    {entries : List (String × α)}
    (h : ∀ entry ∈ entries, P entry) : ∀ entry ∈ Entries.ofList entries, P entry := by
  refine List.foldlRecOn (motive := fun acc => ∀ entry ∈ acc, P entry) entries _ nofun
    fun acc hacc first hfirst entry hentry => ?_
  rcases Entries.mem_put hentry with rfl | hentry
  · exact h first hfirst
  · exact hacc entry hentry

namespace Toml

/-- Values whose tables have their keys in ascending order. -/
inductive Value.IsOrdered : Value → Prop
  | string {text : String} : IsOrdered (.string text)
  | integer {n : Int64} : IsOrdered (.integer n)
  | float {x : Binary64} : IsOrdered (.float x)
  | boolean {value : Bool} : IsOrdered (.boolean value)
  | datetime {d : Datetime} : IsOrdered (.datetime d)
  | array {items : List Value} (each : ∀ item ∈ items, IsOrdered item) : IsOrdered (.array items)
  | table {entries : List (String × Value)} (ascending : Entries.Ascending entries)
      (each : ∀ entry ∈ entries, IsOrdered entry.2) : IsOrdered (.table entries)

private theorem Value.IsOrdered.ofList {entries : List (String × Value)}
    (each : ∀ entry ∈ entries, entry.2.IsOrdered) :
    Value.IsOrdered (.table (Entries.ofList entries)) :=
  .table (Entries.ascending_ofList entries) (Entries.forall_mem_ofList each)

/-- Tables under construction all of whose values are ordered. -/
inductive Node.IsOrdered : Node → Prop
  | leaf {value : Value} (ordered : value.IsOrdered) : IsOrdered (.leaf value)
  | table {origin : TableOrigin} {entries : List (String × Node)}
      (each : ∀ entry ∈ entries, IsOrdered entry.2) : IsOrdered (.table origin entries)
  | tables {items : List (List (String × Node))}
      (each : ∀ item ∈ items, ∀ entry ∈ item, IsOrdered entry.2) : IsOrdered (.tables items)

def Draft.IsOrdered (draft : Draft) : Prop :=
  ∀ entry ∈ draft, entry.2.IsOrdered

section Settled

mutual

theorem Node.isOrdered_value? : (node : Node) → {value : Value} → node.IsOrdered →
    node.value? = some value → value.IsOrdered
  | .leaf _, _, .leaf ordered, h => by
    rw [Node.value?] at h
    cases h
    exact ordered
  | .table _ entries, _, .table each, h => by
    rw [Node.value?] at h
    exact isOrdered_settledTable? entries each h
  | .tables items, _, .tables each, h => by
    rw [Node.value?] at h
    obtain ⟨values, hvalues, rfl⟩ := Option.map_eq_some_iff.1 h
    exact .array (isOrdered_settledTables? items each hvalues)

private theorem isOrdered_settledTable? : (draft : List (String × Node)) → {value : Value} →
    (∀ entry ∈ draft, entry.2.IsOrdered) → settledTable? draft = some value → value.IsOrdered
  | [], _, _, h => by
    rw [settledTable?] at h
    cases h
    exact .table List.Pairwise.nil nofun
  | (key, node) :: rest, _, each, h => by
    obtain ⟨hnode, hrest⟩ := List.forall_mem_cons.1 each
    unfold settledTable? at h
    split at h
    · split at h
      · obtain ⟨d, -, rfl⟩ := Option.map_eq_some_iff.1 h
        exact .datetime
      · cases h
    · obtain ⟨first, hfirst, h⟩ := Option.bind_eq_some_iff.1 h
      obtain ⟨entries, hentries, h⟩ := Option.bind_eq_some_iff.1 h
      cases h
      exact .ofList (List.forall_mem_cons.2 ⟨Node.isOrdered_value? node hnode hfirst,
        isOrdered_settled? rest hrest hentries⟩)

private theorem isOrdered_settled? : (draft : List (String × Node)) →
    {entries : List (String × Value)} →
    (∀ entry ∈ draft, entry.2.IsOrdered) → settled? draft = some entries →
    ∀ entry ∈ entries, entry.2.IsOrdered
  | [], _, _, h => by
    rw [settled?] at h
    cases h
    exact nofun
  | (key, node) :: rest, _, each, h => by
    obtain ⟨hnode, hrest⟩ := List.forall_mem_cons.1 each
    rw [settled?] at h
    obtain ⟨first, hfirst, h⟩ := Option.bind_eq_some_iff.1 h
    obtain ⟨entries, hentries, h⟩ := Option.bind_eq_some_iff.1 h
    cases h
    exact List.forall_mem_cons.2 ⟨Node.isOrdered_value? node hnode hfirst,
      isOrdered_settled? rest hrest hentries⟩

theorem isOrdered_settledTables? : (items : List (List (String × Node))) → {values : List Value} →
    (∀ item ∈ items, ∀ entry ∈ item, entry.2.IsOrdered) → settledTables? items = some values →
    ∀ value ∈ values, value.IsOrdered
  | [], _, _, h => by
    rw [settledTables?] at h
    cases h
    exact nofun
  | item :: rest, _, each, h => by
    obtain ⟨hitem, hrest⟩ := List.forall_mem_cons.1 each
    rw [settledTables?] at h
    obtain ⟨first, hfirst, h⟩ := Option.bind_eq_some_iff.1 h
    obtain ⟨values, hvalues, h⟩ := Option.bind_eq_some_iff.1 h
    cases h
    exact List.forall_mem_cons.2 ⟨isOrdered_settledTable? item hitem hfirst,
      isOrdered_settledTables? rest hrest hvalues⟩

end

end Settled

namespace Draft

variable {draft after : Draft} {key : String} {node : Node}

private theorem isOrdered_nil : IsOrdered [] :=
  fun _ hentry => absurd hentry List.not_mem_nil

private theorem IsOrdered.append {more : Draft} (h : draft.IsOrdered) (hmore : more.IsOrdered) :
    IsOrdered (draft ++ more) :=
  List.forall_mem_append.2 ⟨h, hmore⟩

private theorem isOrdered_singleton (h : node.IsOrdered) : IsOrdered [(key, node)] :=
  List.forall_mem_singleton.2 h

private theorem IsOrdered.replace (h : draft.IsOrdered) (hnode : node.IsOrdered) :
    (draft.replace key node).IsOrdered := by
  intro entry hentry
  obtain ⟨old, hold, rfl⟩ := List.mem_map.1 hentry
  dsimp only
  split
  · exact hnode
  · exact h old hold

private theorem IsOrdered.erase (h : draft.IsOrdered) : (draft.erase key).IsOrdered :=
  fun entry hentry => h entry (List.mem_filter.1 hentry).1

private theorem IsOrdered.get? (h : draft.IsOrdered) (hget : Entries.get? key draft = some node) :
    node.IsOrdered :=
  h _ (Entries.mem_of_get?_eq_some hget)

private theorem IsOrdered.changeAt {way : TableOrigin} {change : TableOrigin → Draft → Option Draft}
    (hchange : ∀ origin draft after, IsOrdered draft → change origin draft = some after →
      IsOrdered after) {path : List String} {origin : TableOrigin} (h : draft.IsOrdered)
    (hafter : Draft.changeAt way change path origin draft = some after) : after.IsOrdered := by
  induction path generalizing origin draft after with
  | nil => exact hchange origin draft after h hafter
  | cons key path ih =>
    rw [Draft.changeAt] at hafter
    split at hafter
    · obtain ⟨inner, hinner, rfl⟩ := Option.map_eq_some_iff.1 hafter
      exact h.append (isOrdered_singleton (.table (ih isOrdered_nil hinner)))
    · cases hafter
    · rename_i items hget
      obtain ⟨inner, hinner, rfl⟩ := Option.map_eq_some_iff.1 hafter
      cases h.get? hget with
      | tables each =>
        have hlast : IsOrdered (items.getLast?.getD []) := by
          cases hitem : items.getLast? with
          | none => exact isOrdered_nil
          | some item => exact each item (List.mem_of_getLast? hitem)
        refine h.replace (.tables (List.forall_mem_append.2 ⟨fun item hitem => ?_, ?_⟩))
        · exact each item ((List.dropLast_sublist items).subset hitem)
        · exact List.forall_mem_singleton.2 (ih hlast hinner)
    · rename_i origin entries hget
      split at hafter
      · cases hafter
      · obtain ⟨inner, hinner, rfl⟩ := Option.map_eq_some_iff.1 hafter
        cases h.get? hget with
        | table each => exact h.replace (.table (ih each hinner))

section Fill

variable {pairs : List (KeyPath × Value)}

private theorem IsOrdered.add? (h : draft.IsOrdered) (hnode : node.IsOrdered)
    (hafter : Draft.add? key node draft = some after) : after.IsOrdered := by
  unfold Draft.add? at hafter
  split at hafter
  · cases hafter
    exact h.append (isOrdered_singleton hnode)
  · cases hafter

private theorem IsOrdered.put? {pair : KeyPath × Value} (h : draft.IsOrdered)
    (hpair : pair.2.IsOrdered)
    (hafter : draft.put? pair = some after) : after.IsOrdered := by
  refine h.changeAt (fun origin inner result hinner hresult => ?_) hafter
  split at hresult
  · cases hresult
  · exact hinner.add? (.leaf hpair) hresult

private theorem IsOrdered.fill? (h : draft.IsOrdered) (hpairs : ∀ pair ∈ pairs, pair.2.IsOrdered)
    (hafter : draft.fill? pairs = some after) : after.IsOrdered := by
  unfold Draft.fill? at hafter
  induction pairs generalizing draft with
  | nil =>
    cases hafter
    exact h
  | cons pair rest ih =>
    obtain ⟨hpair, hrest⟩ := List.forall_mem_cons.1 hpairs
    rw [List.foldlM_cons] at hafter
    obtain ⟨next, hnext, hafter⟩ := Option.bind_eq_some_iff.1 hafter
    exact ih (h.put? hpair hnext) hrest hafter

private theorem IsOrdered.section? {path : KeyPath} (h : draft.IsOrdered)
    (hpairs : ∀ pair ∈ pairs, pair.2.IsOrdered)
    (hafter : draft.section? path pairs = some after) : after.IsOrdered := by
  refine h.changeAt (fun origin parent result hparent hresult => ?_) hafter
  split at hresult
  · obtain ⟨table, htable, rfl⟩ := Option.map_eq_some_iff.1 hresult
    exact hparent.append (isOrdered_singleton (.table (isOrdered_nil.fill? hpairs htable)))
  · rename_i entries hget
    obtain ⟨table, htable, rfl⟩ := Option.map_eq_some_iff.1 hresult
    cases hparent.get? hget with
    | table each =>
      exact hparent.erase.append (isOrdered_singleton (.table (IsOrdered.fill? each hpairs htable)))
  · cases hresult

private theorem IsOrdered.row? {path : KeyPath} (h : draft.IsOrdered)
    (hpairs : ∀ pair ∈ pairs, pair.2.IsOrdered)
    (hafter : draft.row? path pairs = some after) : after.IsOrdered := by
  refine h.changeAt (fun origin parent result hparent hresult => ?_) hafter
  split at hresult
  · obtain ⟨table, htable, rfl⟩ := Option.map_eq_some_iff.1 hresult
    refine hparent.append (isOrdered_singleton (.tables (List.forall_mem_singleton.2 ?_)))
    exact isOrdered_nil.fill? hpairs htable
  · rename_i items hget
    obtain ⟨table, htable, rfl⟩ := Option.map_eq_some_iff.1 hresult
    cases hparent.get? hget with
    | tables each =>
      refine hparent.replace (.tables (List.forall_mem_append.2 ⟨each, ?_⟩))
      exact List.forall_mem_singleton.2 (isOrdered_nil.fill? hpairs htable)
  · cases hresult

end Fill

end Draft

section Reading

private theorem isOrdered_scalar? {cs : List Char} {value : Value} (h : scalar? cs = some value) :
    value.IsOrdered := by
  unfold scalar? at h
  split at h
  · cases h
    exact .boolean
  · split at h
    · cases h
      exact .boolean
    · simp only [Option.orElse_eq_orElse, Option.orElse_eq_or, Option.or_eq_some_iff,
        Option.map_eq_some_iff] at h
      rcases h with ((⟨_, -, rfl⟩ | ⟨-, _, -, rfl⟩) | ⟨-, _, -, rfl⟩) | ⟨-, _, -, rfl⟩
      · exact .datetime
      · exact .integer
      · exact .float
      · exact .float

mutual

private theorem isOrdered_readValue : (fuel : Nat) → {depth : Nat} → {cs rest : List Char} →
    {value : Value} → readValue fuel depth cs = some (value, rest) → value.IsOrdered
  | 0, _, _, _, _, h => by cases h
  | fuel + 1, depth, cs, rest, value, h => by
    unfold readValue at h
    split at h
    · cases h
    · split at h
      · split at h
        · cases h
        · obtain ⟨⟨items, after⟩, hitems, hpair⟩ := Option.map_eq_some_iff.1 h
          cases hpair
          exact .array (isOrdered_readItems fuel hitems)
      · split at h
        · split at h
          · cases h
          · rename_i depth
            -- a table in braces: its pairs fill a draft of its own
            obtain ⟨pairs, after, hordered, h⟩ :
                ∃ (pairs : List (KeyPath × Value)) (after : List Char),
                  (∀ pair ∈ pairs, pair.2.IsOrdered) ∧
                  ((Draft.fill? [] pairs).bind fun draft =>
                    (settledTable? draft).bind fun table => some (table, after)) =
                    some (value, rest) := by
              dsimp only at h
              split at h
              · exact ⟨[], _, nofun, h⟩
              · obtain ⟨⟨pairs, after⟩, hpairs, h⟩ := Option.bind_eq_some_iff.1 h
                exact ⟨pairs, after, isOrdered_readPairs fuel hpairs, h⟩
            obtain ⟨draft, hdraft, h⟩ := Option.bind_eq_some_iff.1 h
            obtain ⟨table, htable, h⟩ := Option.bind_eq_some_iff.1 h
            cases h
            exact isOrdered_settledTable? draft (Draft.isOrdered_nil.fill? hordered hdraft) htable
        · split at h
          · obtain ⟨⟨text, after⟩, -, hpair⟩ := Option.map_eq_some_iff.1 h
            cases hpair
            exact .string
          · obtain ⟨scalar, hscalar, hpair⟩ := Option.map_eq_some_iff.1 h
            cases hpair
            exact isOrdered_scalar? hscalar

theorem isOrdered_readItems : (fuel : Nat) → {depth : Nat} → {cs rest : List Char} →
    {items : List Value} → readItems fuel depth cs = some (items, rest) →
    ∀ item ∈ items, item.IsOrdered
  | 0, _, _, _, _, h => by cases h
  | fuel + 1, depth, cs, rest, items, h => by
    rw [readItems] at h
    split at h
    · cases h
      exact nofun
    · obtain ⟨⟨item, after⟩, hitem, h⟩ := Option.bind_eq_some_iff.1 h
      have hfirst := isOrdered_readValue fuel hitem
      dsimp only at h
      split at h
      · cases h
        exact List.forall_mem_singleton.2 hfirst
      · obtain ⟨⟨others, after⟩, hothers, h⟩ := Option.bind_eq_some_iff.1 h
        cases h
        exact List.forall_mem_cons.2 ⟨hfirst, isOrdered_readItems fuel hothers⟩
      · cases h

theorem isOrdered_readPairs : (fuel : Nat) → {depth : Nat} → {cs rest : List Char} →
    {pairs : List (KeyPath × Value)} → readPairs fuel depth cs = some (pairs, rest) →
    ∀ pair ∈ pairs, pair.2.IsOrdered
  | 0, _, _, _, _, h => by cases h
  | fuel + 1, depth, cs, rest, pairs, h => by
    rw [readPairs] at h
    obtain ⟨⟨key, after⟩, -, h⟩ := Option.bind_eq_some_iff.1 h
    dsimp only at h
    split at h
    · obtain ⟨⟨value, after⟩, hvalue, h⟩ := Option.bind_eq_some_iff.1 h
      have hfirst := isOrdered_readValue fuel hvalue
      dsimp only at h
      split at h
      · cases h
        exact List.forall_mem_singleton.2 hfirst
      · obtain ⟨⟨others, after⟩, hothers, h⟩ := Option.bind_eq_some_iff.1 h
        cases h
        exact List.forall_mem_cons.2 ⟨hfirst, isOrdered_readPairs fuel hothers⟩
      · cases h
    · cases h

end

def Statement.IsOrdered (statement : Statement) : Prop :=
  ∀ path value, statement = .pair path value → value.IsOrdered

private theorem isOrdered_readStatement? {cs rest : List Char} {statement : Statement}
    (h : readStatement? cs = some (statement, rest)) : statement.IsOrdered := by
  rintro path value rfl
  unfold readStatement? at h
  split at h
  · obtain ⟨⟨key, after⟩, -, h⟩ := Option.bind_eq_some_iff.1 h
    dsimp only at h
    split at h <;> cases h
  · obtain ⟨⟨key, after⟩, -, h⟩ := Option.bind_eq_some_iff.1 h
    dsimp only at h
    split at h <;> cases h
  · obtain ⟨⟨key, after⟩, -, h⟩ := Option.bind_eq_some_iff.1 h
    dsimp only at h
    split at h
    · obtain ⟨⟨found, after⟩, hfound, h⟩ := Option.bind_eq_some_iff.1 h
      cases h
      exact isOrdered_readValue _ hfound
    · cases h

private theorem isOrdered_readStatements? {fuel : Nat} {cs : List Char}
    {statements : List Statement}
    (h : readStatements? fuel cs = some statements) :
    ∀ statement ∈ statements, statement.IsOrdered := by
  induction fuel generalizing cs statements with
  | zero => cases h
  | succ fuel ih =>
    rw [readStatements?] at h
    split at h
    · cases h
      exact nofun
    · split at h
      · exact ih h
      · obtain ⟨⟨statement, after⟩, hstatement, h⟩ := Option.bind_eq_some_iff.1 h
        obtain ⟨next, -, h⟩ := Option.bind_eq_some_iff.1 h
        obtain ⟨others, hothers, h⟩ := Option.bind_eq_some_iff.1 h
        cases h
        exact List.forall_mem_cons.2 ⟨isOrdered_readStatement? hstatement, ih hothers⟩

private theorem isOrdered_sectioned {statements : List Statement}
    (h : ∀ statement ∈ statements, statement.IsOrdered) :
    (∀ pair ∈ (sectioned statements).1, pair.2.IsOrdered) ∧
      ∀ s ∈ (sectioned statements).2, ∀ pair ∈ s.pairs, pair.2.IsOrdered := by
  induction statements with
  | nil => exact ⟨nofun, nofun⟩
  | cons statement rest ih =>
    obtain ⟨hstatement, hrest⟩ := List.forall_mem_cons.1 h
    obtain ⟨hpairs, hsections⟩ := ih hrest
    cases statement with
    | pair path value =>
      exact ⟨List.forall_mem_cons.2 ⟨hstatement path value rfl, hpairs⟩, hsections⟩
    | table path => exact ⟨nofun, List.forall_mem_cons.2 ⟨hpairs, hsections⟩⟩
    | row path => exact ⟨nofun, List.forall_mem_cons.2 ⟨hpairs, hsections⟩⟩

private theorem Draft.IsOrdered.addSections {sections : List Section} {draft after : Draft}
    (h : draft.IsOrdered) (hsections : ∀ s ∈ sections, ∀ pair ∈ s.pairs, pair.2.IsOrdered)
    (hafter : sections.foldlM Draft.addSection? draft = some after) : after.IsOrdered := by
  induction sections generalizing draft with
  | nil =>
    cases hafter
    exact h
  | cons s rest ih =>
    obtain ⟨hpairs, hrest⟩ := List.forall_mem_cons.1 hsections
    rw [List.foldlM_cons] at hafter
    obtain ⟨next, hnext, hafter⟩ := Option.bind_eq_some_iff.1 hafter
    refine ih ?_ hrest hafter
    unfold Draft.addSection? at hnext
    split at hnext
    · exact h.row? hpairs hnext
    · exact h.section? hpairs hnext

/-- All tables of a settings file that was read have their keys in ascending order. -/
theorem isOrdered_read? {text : String} {table : Dictionary Value} (h : read? text = some table) :
    ∀ entry ∈ table.entries, entry.2.IsOrdered := by
  obtain ⟨statements, hstatements, h⟩ := Option.bind_eq_some_iff.1 h
  obtain ⟨draft, hdraft, h⟩ := Option.bind_eq_some_iff.1 h
  obtain ⟨entries, hentries, h⟩ := Option.bind_eq_some_iff.1 h
  cases h
  obtain ⟨hpairs, hsections⟩ := isOrdered_sectioned (isOrdered_readStatements? hstatements)
  obtain ⟨filled, hfilled, hdraft⟩ := Option.bind_eq_some_iff.1 hdraft
  have hordered := (Draft.isOrdered_nil.fill? hpairs hfilled).addSections hsections hdraft
  rintro ⟨key, value⟩ hentry
  rw [← Dictionary.get?_eq_some_iff, Dictionary.get?_ofList] at hentry
  have hmem := List.mem_reverse.1 (Entries.mem_of_get?_eq_some hentry)
  exact isOrdered_settled? draft hordered hentries _ hmem

end Reading

end Toml

end SchemaMocks
