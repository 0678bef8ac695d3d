import SchemaMocks.Proofs.Json.Numbers

set_option autoImplicit false
set_option relaxedAutoImplicit false

/-!
Reading what was printed. A value that does not nest too deep, and whose objects have their keys in
ascending order, is read from its compact text as a value that differs from it in binary numbers at
most: the reader rounds those in its own way.
-/

namespace SchemaMocks

namespace Entries

variable {α : Type} {entries : List (String × α)}

private theorem put_of_forall_lt {key : String} {value : α} (h : ∀ entry ∈ entries, entry.1 < key) :
    put key value entries = entries ++ [(key, value)] := by
  induction entries with
  | nil => rfl
  | cons first rest ih =>
    obtain ⟨hfirst, hrest⟩ := List.forall_mem_cons.1 h
    rw [put, if_neg (String.lt_asymm hfirst), if_neg (String.ne_of_lt hfirst), ih hrest]
    rfl

private theorem ofList_of_ascending (h : Ascending entries) : ofList entries = entries := by
  have hfold : ∀ acc : List (String × α), Ascending (acc ++ entries) →
      entries.foldl (fun acc entry => put entry.1 entry.2 acc) acc = acc ++ entries := by
    clear h
    induction entries with
    | nil => simp
    | cons entry rest ih =>
      intro acc hacc
      have hbefore : ∀ a ∈ acc, a.1 < entry.1 := fun a ha =>
        (List.pairwise_append.1 hacc).2.2 a ha entry List.mem_cons_self
      rw [List.foldl_cons, put_of_forall_lt hbefore, ih _ (by simpa using hacc)]
      simp
  exact hfold [] h

end Entries

namespace Json

section Strings

variable {cs rest : List Char}

private theorem hexValue?_digitChar {n : Nat} (hn : n < 16) : hexValue? n.digitChar = some n := by
  have hall : ∀ m : Fin 16, hexValue? m.val.digitChar = some m.val := by decide
  exact hall ⟨n, hn⟩

private theorem escape?_control {c : Char} (hc : c.toNat < 32) (rest : List Char) :
    escape? ('u' :: '0' :: '0' :: (Text.hexByte (UInt8.ofNat c.toNat) ++ rest)) =
      some (c, rest) := by
  have hbyte : (UInt8.ofNat c.toNat).toNat = c.toNat := by
    rw [UInt8.toNat_ofNat']
    omega
  have hnought : hexValue? '0' = some 0 := by decide
  have hhigh := hexValue?_digitChar (n := c.toNat / 16) (by omega)
  have hlow := hexValue?_digitChar (n := c.toNat % 16) (by omega)
  have hcode : c.toNat / 16 * 16 + c.toNat % 16 = c.toNat := by omega
  have hsmall : ¬(0xDC00 ≤ c.toNat) ∧ ¬(0xD800 ≤ c.toNat) := by omega
  simp [escape?, unicodeEscape?, hex4?, Text.hexByte, hbyte, hnought, hhigh, hlow, hcode, hsmall]

private theorem readString_escapeChar {fuel : Nat} {s : List Char} (c : Char)
    (h : readString fuel cs = some (s, rest)) :
    readString (fuel + 1) (escapeChar c ++ cs) = some (c :: s, rest) := by
  have hescaped {front : List Char} (hfront : escape? (front ++ cs) = some (c, cs)) :
      readString (fuel + 1) ('\\' :: front ++ cs) = some (c :: s, rest) := by
    simp [readString, hfront, h]
  unfold escapeChar
  split_ifs with hquote hbackslash hline hreturn htab hback hfeed hcontrol
  · subst hquote
    exact hescaped rfl
  · subst hbackslash
    exact hescaped rfl
  · subst hline
    exact hescaped rfl
  · subst hreturn
    exact hescaped rfl
  · subst htab
    exact hescaped rfl
  · subst hback
    exact hescaped rfl
  · subst hfeed
    exact hescaped rfl
  · exact hescaped (escape?_control hcontrol cs)
  · simp [readString, hquote, hbackslash, hcontrol, h]

private theorem readString_flatMap {fuel : Nat} {s : List Char} (hfuel : s.length < fuel) :
    readString fuel (s.flatMap escapeChar ++ '\"' :: rest) = some (s, rest) := by
  induction s generalizing fuel with
  | nil =>
    cases fuel with
    | zero => cases hfuel
    | succ fuel => simp [readString]
  | cons c s ih =>
    cases fuel with
    | zero => cases hfuel
    | succ fuel =>
      rw [List.flatMap_cons, List.append_assoc]
      exact readString_escapeChar c (ih (Nat.lt_of_succ_lt_succ hfuel))

private theorem length_quote (s : List Char) : s.length + 2 ≤ (quote s).length := by
  have hchar : ∀ c, 1 ≤ (escapeChar c).length := by
    intro c
    unfold escapeChar
    split_ifs <;> simp
  have hchars : s.length ≤ (s.flatMap escapeChar).length := by
    induction s with
    | nil => exact Nat.le_refl 0
    | cons c s ih =>
      have hone := hchar c
      rw [List.flatMap_cons, List.length_append, List.length_cons]
      omega
  rw [quote, List.length_cons, List.length_append, List.length_singleton]
  omega

private theorem readString_quote {fuel : Nat} {s : List Char} (hfuel : s.length < fuel)
    (rest : List Char) :
    ∃ body, quote s ++ rest = '\"' :: body ∧ readString fuel body = some (s, rest) :=
  ⟨s.flatMap escapeChar ++ '\"' :: rest, by simp [quote], readString_flatMap hfuel⟩

end Strings

mutual

/-- Values that differ in binary numbers at most. -/
inductive Alike : Json → Json → Prop
  | null : Alike .null .null
  | bool {value : Bool} : Alike (.bool value) (.bool value)
  | number {n n' : Number} (numbers : n.Alike n') : Alike (.number n) (.number n')
  | string {s : String} : Alike (.string s) (.string s)
  | array {items items' : List Json} (each : List.Forall₂ Alike items items') :
      Alike (.array items) (.array items')
  | object {entries entries' : List (String × Json)}
      (each : List.Forall₂ AlikeMember entries entries') :
      Alike (.object entries) (.object entries')

inductive AlikeMember : String × Json → String × Json → Prop
  | mk {key : String} {value value' : Json} (values : Alike value value') :
      AlikeMember (key, value) (key, value')

end

/-- Values that nest at most so deep, with the keys of every object in ascending order. -/
inductive Fits : Nat → Json → Prop
  | null {depth : Nat} : Fits depth .null
  | bool {depth : Nat} {value : Bool} : Fits depth (.bool value)
  | number {depth : Nat} {n : Number} : Fits depth (.number n)
  | string {depth : Nat} {s : String} : Fits depth (.string s)
  | array {depth : Nat} {items : List Json} (each : ∀ item ∈ items, Fits depth item) :
      Fits (depth + 1) (.array items)
  | object {depth : Nat} {entries : List (String × Json)} (ascending : Entries.Ascending entries)
      (each : ∀ entry ∈ entries, Fits depth entry.2) : Fits (depth + 1) (.object entries)

theorem Alike.eq_integer_iff {j j' : Json} (h : Alike j j') {n : Int}
    {fits : -9223372036854775808 ≤ n ∧ n < 18446744073709551616} :
    j' = .number (.integer n fits) ↔ j = .number (.integer n fits) := by
  constructor
  · rintro rfl
    cases h with
    | number numbers =>
      cases numbers
      rfl
  · rintro rfl
    cases h with
    | number numbers =>
      cases numbers
      rfl

private theorem map_fst_of_alike {entries entries' : List (String × Json)}
    (h : List.Forall₂ AlikeMember entries entries') :
    entries'.map Prod.fst = entries.map Prod.fst := by
  induction h with
  | nil => rfl
  | cons member _ ih =>
    cases member
    rw [List.map_cons, List.map_cons, ih]

private theorem ascending_of_alike {entries entries' : List (String × Json)}
    (h : List.Forall₂ AlikeMember entries entries') (ascending : Entries.Ascending entries) :
    Entries.Ascending entries' := by
  have hkeys : (entries.map Prod.fst).Pairwise (· < ·) := List.pairwise_map.2 ascending
  rw [← map_fst_of_alike h] at hkeys
  exact List.pairwise_map.1 hkeys

section Values

variable {fuel depth : Nat} {cs rest : List Char}

private theorem skipSpace_cons {c : Char} (h : isSpace c = false) :
    skipSpace (c :: cs) = c :: cs := by
  simp [skipSpace, h]

private theorem endsNumeral_cons {c : Char} (h : c = ',' ∨ c = ']' ∨ c = '\x7d') :
    EndsNumeral (c :: rest) := by
  intro c' hc'
  cases hc'
  rcases h with rfl | rfl | rfl <;> decide

private theorem IsNumeral.exists_head (h : IsNumeral cs) :
    ∃ c tail, cs = c :: tail ∧ (c = '-' ∨ c.isDigit = true) := by
  obtain ⟨sign, body, hsign, ⟨whole, fraction, exponent, hwhole, -, -, rfl⟩, rfl⟩ := h
  have hsigns : sign = [] ∨ sign = ['-'] := by simpa using hsign
  rcases hsigns with rfl | rfl
  · obtain ⟨c, tail, rfl⟩ := List.exists_cons_of_ne_nil hwhole.1.1
    exact ⟨c, _, rfl, .inr (hwhole.1.2 c List.mem_cons_self)⟩
  · exact ⟨'-', _, rfl, .inl rfl⟩

private theorem readValue_number {n : Number} (hnumeral : IsNumeral cs)
    (h : readNumber (cs ++ rest) = some (n, rest)) :
    readValue (fuel + 1) depth (cs ++ rest) = some (.number n, rest) := by
  obtain ⟨c, tail, rfl, hc⟩ := hnumeral.exists_head
  have hother : ∀ d ∈ [' ', '\n', '\t', '\r', 'n', 't', 'f', '\"', '[', '\x7b'], c ≠ d := by
    have hall : [' ', '\n', '\t', '\r', 'n', 't', 'f', '\"', '[', '\x7b'].all
        (fun d => d != '-' && !d.isDigit) = true := by
      decide
    rintro d hd rfl
    have hnone := List.all_eq_true.1 hall c hd
    rcases hc with rfl | hc
    · cases hnone
    · simp [hc] at hnone
  simp only [List.forall_mem_cons, List.mem_nil_iff] at hother
  obtain ⟨hblank, hline, htab, hreturn, hnull, htrue, hfalse, hquote, hbracket, hbrace, -⟩ := hother
  have hspace : isSpace c = false := by simp [isSpace, hblank, hline, htab, hreturn]
  rw [List.cons_append] at h ⊢
  rw [readValue, skipSpace_cons hspace]
  simp [hnull, htrue, hfalse, hquote, hbracket, hbrace, h]

private theorem readItems_bracket {after : List Char} (h : skipSpace cs = ']' :: after) :
    readItems fuel depth cs = none := by
  cases fuel with
  | zero => rfl
  | succ fuel =>
    have hvalue : readValue fuel depth cs = none := by
      cases fuel with
      | zero => rfl
      | succ fuel =>
        rw [readValue, h]
        rfl
    rw [readItems, hvalue]
    rfl

section Items

variable {item : Json} {items : List Json} {next : List Char}

private theorem readItems_last (h : readValue fuel depth cs = some (item, ']' :: rest)) :
    readItems (fuel + 1) depth cs = some ([item], rest) := by
  simp [readItems, h, skipSpace, isSpace]

private theorem readItems_next (h : readValue fuel depth cs = some (item, ',' :: next))
    (hnext : readItems fuel depth next = some (items, rest)) :
    readItems (fuel + 1) depth cs = some (item :: items, rest) := by
  simp [readItems, h, hnext, skipSpace, isSpace]

private theorem readValue_items (h : readItems fuel depth cs = some (items, rest)) :
    readValue (fuel + 1) (depth + 1) ('[' :: cs) = some (.array items, rest) := by
  rw [readValue, skipSpace_cons (by decide)]
  simp only
  split
  · rename_i hbracket
    rw [readItems_bracket hbracket] at h
    cases h
  · rw [h]
    rfl

end Items

section Members

variable {key : String} {value : Json} {members : List (String × Json)} {text next : List Char}

private theorem readMembers_last (hlength : key.length < fuel)
    (h : readValue fuel depth text = some (value, '\x7d' :: rest)) :
    readMembers (fuel + 1) depth (quote key.toList ++ ':' :: text) =
      some ([(key, value)], rest) := by
  obtain ⟨body, hbody, hread⟩ := readString_quote (String.length_toList ▸ hlength) (':' :: text)
  rw [hbody]
  simp [readMembers, hread, h, skipSpace, isSpace]

private theorem readMembers_next (hlength : key.length < fuel)
    (h : readValue fuel depth text = some (value, ',' :: next))
    (hnext : readMembers fuel depth next = some (members, rest)) :
    readMembers (fuel + 1) depth (quote key.toList ++ ':' :: text) =
      some ((key, value) :: members, rest) := by
  obtain ⟨body, hbody, hread⟩ := readString_quote (String.length_toList ▸ hlength) (':' :: text)
  rw [hbody]
  simp [readMembers, hread, h, hnext, skipSpace, isSpace]

private theorem readValue_members (hquote : cs.head? = some '\"')
    (h : readMembers fuel depth cs = some (members, rest)) :
    readValue (fuel + 1) (depth + 1) ('\x7b' :: cs) =
      some (.object (Entries.ofList members), rest) := by
  obtain ⟨body, rfl⟩ := List.head?_eq_some_iff.1 hquote
  rw [readValue, skipSpace_cons (by decide)]
  simp [skipSpace_cons (show isSpace '\"' = false by decide), h]

end Members

end Values

private theorem length_printMember (entry : String × Json) :
    entry.1.length + (print entry.2).length + 3 ≤ (printMember entry).length := by
  have hquote := length_quote entry.1.toList
  rw [String.length_toList] at hquote
  rw [printMember, List.length_append, List.length_cons]
  omega

private theorem head?_printMembers (entry : String × Json) (entries : List (String × Json))
    (cs : List Char) :
    ([','].intercalate ((entry :: entries).map printMember) ++ cs).head? = some '\"' := by
  rw [List.map_cons, intercalate_cons]
  rfl

mutual

private theorem readValue_print : (j : Json) → {fuel depth : Nat} → (rest : List Char) →
    Fits depth j →
    (print j).length < fuel → EndsNumeral rest →
    ∃ j', Alike j j' ∧ readValue fuel depth (print j ++ rest) = some (j', rest)
  | _, 0, _, _, _, hfuel, _ => absurd hfuel (Nat.not_lt_zero _)
  | .null, _ + 1, _, _, _, _, _ => ⟨.null, .null, by simp [print, readValue, skipSpace, isSpace]⟩
  | .bool true, _ + 1, _, _, _, _, _ =>
    ⟨.bool true, .bool, by simp [print, readValue, skipSpace, isSpace]⟩
  | .bool false, _ + 1, _, _, _, _, _ =>
    ⟨.bool false, .bool, by simp [print, readValue, skipSpace, isSpace]⟩
  | .number n, _ + 1, _, _, _, _, hrest => by
    obtain ⟨n', hn, hread⟩ := readNumber_text n hrest
    exact ⟨.number n', .number hn, readValue_number (isNumeral_text n) hread⟩
  | .string s, fuel + 1, _, rest, _, hfuel, _ => by
    have hlength : s.toList.length < fuel := by
      have hquote := length_quote s.toList
      rw [print] at hfuel
      omega
    obtain ⟨body, hbody, hread⟩ := readString_quote hlength rest
    refine ⟨.string s, .string, ?_⟩
    rw [print, hbody, readValue, skipSpace_cons (by decide)]
    simp [hread]
  | .array [], _ + 1, _, _, .array _, _, _ =>
    ⟨.array [], .array .nil, by simp [print, readValue, skipSpace, isSpace]⟩
  | .array (item :: items), fuel + 1, depth + 1, rest, .array each, hfuel, _ => by
    have hitems : ([','].intercalate ((item :: items).map print)).length + 1 < fuel := by
      rw [print_array, List.length_cons, List.length_append, List.length_singleton] at hfuel
      omega
    obtain ⟨items', halike, hread⟩ :=
      readItems_print (item :: items) (List.cons_ne_nil _ _) rest each hitems
    refine ⟨.array items', .array halike, ?_⟩
    rw [print_array, List.cons_append, List.append_assoc]
    exact readValue_items hread
  | .object [], _ + 1, _, _, .object _ _, _, _ =>
    ⟨.object [], .object .nil, by simp [print, readValue, skipSpace, isSpace]⟩
  | .object (entry :: entries), fuel + 1, depth + 1, rest, .object ascending each, hfuel, _ => by
    have hmembers : ([','].intercalate ((entry :: entries).map printMember)).length + 1 < fuel := by
      rw [print_object, List.length_cons, List.length_append, List.length_singleton] at hfuel
      omega
    obtain ⟨members, halike, hread⟩ :=
      readMembers_print (entry :: entries) (List.cons_ne_nil _ _) rest each hmembers
    refine ⟨.object members, .object halike, ?_⟩
    -- the members that were read have the keys of the entries, so sorting them changes nothing
    rw [print_object, List.cons_append, List.append_assoc, List.singleton_append,
      readValue_members (head?_printMembers entry entries _) hread,
      Entries.ofList_of_ascending (ascending_of_alike halike ascending)]

theorem readItems_print : (items : List Json) → items ≠ [] → {fuel depth : Nat} →
    (rest : List Char) → (∀ item ∈ items, Fits depth item) →
    ([','].intercalate (items.map print)).length + 1 < fuel →
    ∃ items', List.Forall₂ Alike items items' ∧
      readItems fuel depth ([','].intercalate (items.map print) ++ ']' :: rest) =
        some (items', rest)
  | [], hne, _, _, _, _, _ => absurd rfl hne
  | _, _, 0, _, _, _, hfuel => absurd hfuel (Nat.not_lt_zero _)
  | [item], _, fuel + 1, depth, rest, each, hfuel => by
    rw [List.map_singleton, List.intercalate_singleton] at hfuel ⊢
    obtain ⟨item', halike, hread⟩ := readValue_print item (']' :: rest)
      (each item List.mem_cons_self) (by omega : (print item).length < fuel)
      (endsNumeral_cons (by decide))
    exact ⟨[item'], .cons halike .nil, readItems_last hread⟩
  | item :: next :: items, _, fuel + 1, depth, rest, each, hfuel => by
    obtain ⟨heach, hothers⟩ := List.forall_mem_cons.1 each
    rw [List.map_cons, List.map_cons, List.intercalate_cons_cons, ← List.map_cons] at hfuel ⊢
    rw [List.length_append, List.length_append, List.length_singleton] at hfuel
    rw [List.append_assoc, List.append_assoc, List.singleton_append]
    obtain ⟨item', halike, hread⟩ := readValue_print item
      (',' :: ([','].intercalate ((next :: items).map print) ++ ']' :: rest)) heach
      (by omega : (print item).length < fuel) (endsNumeral_cons (by decide))
    obtain ⟨items', halikes, hreads⟩ := readItems_print (next :: items) (List.cons_ne_nil _ _) rest
      hothers (by omega : _ < fuel)
    exact ⟨item' :: items', .cons halike halikes, readItems_next hread hreads⟩

theorem readMembers_print : (entries : List (String × Json)) → entries ≠ [] → {fuel depth : Nat} →
    (rest : List Char) → (∀ entry ∈ entries, Fits depth entry.2) →
    ([','].intercalate (entries.map printMember)).length + 1 < fuel →
    ∃ entries', List.Forall₂ AlikeMember entries entries' ∧
      readMembers fuel depth ([','].intercalate (entries.map printMember) ++ '\x7d' :: rest) =
        some (entries', rest)
  | [], hne, _, _, _, _, _ => absurd rfl hne
  | _, _, 0, _, _, _, hfuel => absurd hfuel (Nat.not_lt_zero _)
  | [(key, value)], _, fuel + 1, depth, rest, each, hfuel => by
    have hlength := length_printMember (key, value)
    dsimp only at hlength
    rw [List.map_singleton, List.intercalate_singleton] at hfuel ⊢
    rw [printMember, List.append_assoc, List.cons_append]
    obtain ⟨value', halike, hread⟩ := readValue_print value ('\x7d' :: rest)
      (each (key, value) List.mem_cons_self) (by omega : (print value).length < fuel)
      (endsNumeral_cons (by decide))
    have hkey : key.length < fuel := by omega
    exact ⟨[(key, value')], .cons (.mk halike) .nil, readMembers_last hkey hread⟩
  | (key, value) :: next :: entries, _, fuel + 1, depth, rest, each, hfuel => by
    obtain ⟨heach, hothers⟩ := List.forall_mem_cons.1 each
    have hlength := length_printMember (key, value)
    dsimp only at hlength
    rw [List.map_cons, List.map_cons, List.intercalate_cons_cons, ← List.map_cons] at hfuel ⊢
    rw [List.length_append, List.length_append, List.length_singleton] at hfuel
    rw [List.append_assoc, List.append_assoc, List.singleton_append, printMember,
      List.append_assoc, List.cons_append]
    obtain ⟨value', halike, hread⟩ := readValue_print value
      (',' :: ([','].intercalate ((next :: entries).map printMember) ++ '\x7d' :: rest)) heach
      (by omega : (print value).length < fuel) (endsNumeral_cons (by decide))
    obtain ⟨entries', halikes, hreads⟩ := readMembers_print (next :: entries)
      (List.cons_ne_nil _ _) rest hothers (by omega : _ < fuel)
    have hkey : key.length < fuel := by omega
    exact ⟨(key, value') :: entries', .cons (.mk halike) halikes,
      readMembers_next hkey hread hreads⟩

end

theorem read?_compact {j : Json} (h : Fits nestingLimit j) :
    ∃ j', Alike j j' ∧ read? j.compact = some j' := by
  obtain ⟨j', halike, hread⟩ := readValue_print j [] h
    (by omega : _ < 2 * (print j).length + 2) nofun
  rw [List.append_nil] at hread
  refine ⟨j', halike, ?_⟩
  unfold read? compact
  dsimp only
  rw [String.toList_ofList, hread]
  rfl

end Json

end SchemaMocks
