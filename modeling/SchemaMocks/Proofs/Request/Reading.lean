import SchemaMocks.Request.Reader

set_option autoImplicit false
set_option relaxedAutoImplicit false

/-!
What a line states. An object is taken apart into its members, each a key and the text where its value
begins, and an array into its items; the identifier of a request is the value under its key or the
first item. So the identifier is told from the line, without the request that is read.
-/

namespace SchemaMocks.Request

def afterValue? (key : String) (cs : List Char) : Option (List Char) :=
  if key = "id" ∨ key = "params" then (readAny cs).map (·.2)
  else if key = "method" then (readText cs).map (·.2)
  else Json.skipValue (2 * cs.length + 2) cs

/-- The members of an object up to its closing brace, each with the text where its value begins. -/
inductive ListsMembers : List Char → List (String × List Char) → List Char → Prop
  | last {cs front value after rest : List Char} {key : String}
      (named : readText cs = some (key, front)) (colon : Json.skipSpace front = ':' :: value)
      (ended : afterValue? key value = some after)
      (brace : Json.skipSpace after = '\x7d' :: rest) : ListsMembers cs [(key, value)] rest
  | more {cs front value after next rest : List Char} {key : String}
      {entries : List (String × List Char)}
      (named : readText cs = some (key, front)) (colon : Json.skipSpace front = ':' :: value)
      (ended : afterValue? key value = some after) (comma : Json.skipSpace after = ',' :: next)
      (others : ListsMembers next entries rest) : ListsMembers cs ((key, value) :: entries) rest

def StatesId (entries : List (String × List Char)) : Option Json → Prop
  | none => ∀ entry ∈ entries, entry.1 ≠ "id"
  | some id => ∃ text rest, entries.filter (·.1 = "id") = [("id", text)] ∧
      readAny text = some (id, rest)

/-- The identifier that a text states, where it is an object or an array. -/
inductive IsIdOf : List Char → Option Json → Prop
  | item {cs items rest : List Char} {id : Json} (bracket : Json.skipSpace cs = '[' :: items)
      (read : readAny items = some (id, rest)) : IsIdOf cs (some id)
  | member {cs members rest : List Char} {entries : List (String × List Char)} {id? : Option Json}
      (brace : Json.skipSpace cs = '\x7b' :: members) (listed : ListsMembers members entries rest)
      (states : StatesId entries id?) : IsIdOf cs id?

private theorem readOnce_eq_some {α : Type} {met : Bool} {read : Option (α × List Char)}
    {after : Members}
    {rest : List Char} (put : α → Members)
    (h : (if met then none else read.map fun (value, rest) => (put value, rest)) =
      some (after, rest)) :
    met = false ∧ ∃ value, read = some (value, rest) ∧ after = put value := by
  cases met with
  | true => cases h
  | false =>
    obtain ⟨⟨value, rest⟩, hread, heq⟩ := Option.map_eq_some_iff.1 h
    cases heq
    exact ⟨rfl, value, hread, rfl⟩

private theorem readMember_id {key : String} {members after : Members} {cs rest : List Char}
    (h : readMember key members cs = some (after, rest)) :
    afterValue? key cs = some rest ∧
      if key = "id" then members.id = none ∧ ∃ id, after.id = some id ∧ readAny cs = some (id, rest)
      else after.id = members.id := by
  unfold readMember at h
  by_cases hid : key = "id"
  · rw [if_pos hid] at h ⊢
    obtain ⟨hmet, id, hread, rfl⟩ := readOnce_eq_some (fun id => { members with id := some id }) h
    exact ⟨by simp [afterValue?, hid, hread], Option.isNone_iff_eq_none.1 (by simpa using hmet),
      id, rfl, hread⟩
  · rw [if_neg hid] at h ⊢
    by_cases hmethod : key = "method"
    · rw [if_pos hmethod] at h
      obtain ⟨-, method, hread, rfl⟩ :=
        readOnce_eq_some (fun method => { members with method := some method }) h
      exact ⟨by simp [afterValue?, hmethod, hread], rfl⟩
    · rw [if_neg hmethod] at h
      by_cases hparams : key = "params"
      · rw [if_pos hparams] at h
        obtain ⟨-, params, hread, rfl⟩ :=
          readOnce_eq_some (fun params => { members with params := some params }) h
        exact ⟨by simp [afterValue?, hparams, hread], rfl⟩
      · rw [if_neg hparams] at h
        obtain ⟨rest, hskip, heq⟩ := Option.map_eq_some_iff.1 h
        cases heq
        exact ⟨by simp [afterValue?, hid, hmethod, hparams, hskip], rfl⟩

def IdAfter (before : Option Json) (entries : List (String × List Char)) (after : Option Json) : Prop :=
  match before with
  | none => StatesId entries after
  | some _ => StatesId entries none ∧ after = before

private theorem idAfter_nil (id? : Option Json) : IdAfter id? [] id? := by
  cases id? with
  | none => exact nofun
  | some id => exact ⟨nofun, rfl⟩

private theorem idAfter_cons {key : String} {members after : Members} {cs rest : List Char}
    {entries : List (String × List Char)} {id? : Option Json}
    (h : readMember key members cs = some (after, rest)) (hothers : IdAfter after.id entries id?) :
    IdAfter members.id ((key, cs) :: entries) id? := by
  have hid := (readMember_id h).2
  by_cases hkey : key = "id"
  · rw [if_pos hkey] at hid
    obtain ⟨hnone, id, hsome, hread⟩ := hid
    rw [hsome] at hothers
    obtain ⟨hentries, rfl⟩ := hothers
    rw [hnone, hkey]
    -- a member under this key that came later would have been refused
    refine ⟨cs, rest, ?_, hread⟩
    rw [List.filter_cons_of_pos (by simp), List.filter_eq_nil_iff.2 fun entry hentry => by
      simpa using hentries entry hentry]
  · rw [if_neg hkey] at hid
    rw [hid] at hothers
    have hnone (h : StatesId entries none) : StatesId ((key, cs) :: entries) none :=
      List.forall_mem_cons.2 ⟨hkey, h⟩
    cases hmembers : members.id with
    | some id =>
      rw [hmembers] at hothers
      exact ⟨hnone hothers.1, hothers.2⟩
    | none =>
      rw [hmembers] at hothers
      cases id? with
      | none => exact hnone hothers
      | some id =>
        obtain ⟨text, rest', hfilter, hread⟩ := hothers
        exact ⟨text, rest', by rw [List.filter_cons_of_neg (by simpa using hkey), hfilter], hread⟩

private theorem readMembers_entries {fuel : Nat} {members after : Members} {cs rest : List Char}
    (h : readMembers fuel members cs = some (after, rest)) :
    ∃ entries, ListsMembers cs entries rest ∧ IdAfter members.id entries after.id := by
  induction fuel generalizing members cs with
  | zero => cases h
  | succ fuel ih =>
    obtain ⟨⟨key, front⟩, hkey, h⟩ := Option.bind_eq_some_iff.1 h
    dsimp only at h
    split at h
    · rename_i value hcolon
      obtain ⟨⟨middle, tail⟩, hmember, h⟩ := Option.bind_eq_some_iff.1 h
      have hvalue := (readMember_id hmember).1
      dsimp only at h
      split at h
      · rename_i hbrace
        cases h
        exact ⟨[(key, value)], .last hkey hcolon hvalue hbrace,
          idAfter_cons hmember (idAfter_nil after.id)⟩
      · rename_i next hcomma
        obtain ⟨entries, hentries, hid⟩ := ih h
        exact ⟨(key, value) :: entries, .more hkey hcolon hvalue hcomma hentries,
          idAfter_cons hmember hid⟩
      · cases h
    · cases h

private theorem readItems_id {cs rest : List Char} {members : Members}
    (h : readItems cs = some (members, rest)) :
    ∃ id after, members.id = some id ∧ readAny cs = some (id, after) := by
  obtain ⟨⟨id, after⟩, hread, h⟩ := Option.bind_eq_some_iff.1 h
  refine ⟨id, after, ?_, hread⟩
  dsimp only at h
  split at h
  · obtain ⟨⟨method, rest'⟩, -, h⟩ := Option.bind_eq_some_iff.1 h
    dsimp only at h
    split at h
    · cases h
      rfl
    · obtain ⟨⟨params, rest'⟩, -, h⟩ := Option.bind_eq_some_iff.1 h
      dsimp only at h
      split at h <;> cases h
      rfl
    · cases h
  · cases h

private theorem request_of_members {members : Members} {rest : List Char} {r : Request}
    (h : (if (Json.skipSpace rest).isEmpty then members.request? else none) = some r) :
    members.method.isSome ∧ r.id = members.id.getD .null := by
  split at h
  · obtain ⟨method, hmethod, rfl⟩ := Option.map_eq_some_iff.1 h
    exact ⟨by rw [hmethod]; rfl, rfl⟩
  · cases h

private theorem ofChars?_id {cs : List Char} {r : Request} (h : ofChars? cs = some r) :
    ∃ id?, IsIdOf cs id? ∧ r.id = id?.getD .null := by
  unfold ofChars? at h
  dsimp only at h
  split at h
  · rename_i inner hbrace
    split at h
    · exact absurd (request_of_members h).1 Bool.false_ne_true
    · obtain ⟨⟨members, rest⟩, hread, h⟩ := Option.bind_eq_some_iff.1 h
      obtain ⟨entries, hentries, hid⟩ := readMembers_entries hread
      exact ⟨members.id, .member hbrace hentries hid, (request_of_members h).2⟩
  · rename_i items hbracket
    obtain ⟨⟨members, rest⟩, hread, h⟩ := Option.bind_eq_some_iff.1 h
    obtain ⟨id, after, hid, hitem⟩ := readItems_id hread
    refine ⟨some id, .item hbracket hitem, ?_⟩
    rw [(request_of_members h).2, hid]
  · cases h

theorem ofText_id {line : String} {r : Request} (h : Line.ofText line = .request r) :
    ∃ id?, IsIdOf (Text.trim line.toList) id? ∧ r.id = id?.getD .null := by
  unfold Line.ofText at h
  dsimp only at h
  split at h
  · cases h
  · split at h
    · rename_i r' hread
      cases h
      exact ofChars?_id hread
    · cases h

end SchemaMocks.Request
