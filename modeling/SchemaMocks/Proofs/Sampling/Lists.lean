import SchemaMocks.Mock.Vocabulary
import SchemaMocks.Proofs.Datamodel.Validation
import SchemaMocks.Proofs.Sampling.Null

set_option autoImplicit false
set_option relaxedAutoImplicit false

/-!
What a directive leads to in a list field. Texts of an enumeration and repeated values make a list.
An array literal is told by its brackets and read as JSON: where it is not JSON it is a text, and so
is what is drawn for the field.
-/

namespace SchemaMocks

section Brackets

variable {rest : List Char}

theorem Json.readValue_of_read? {cs : List Char} {j : Json}
    (h : Json.read? (String.ofList cs) = some j) :
    ∃ fuel after, Json.readValue fuel nestingLimit cs = some (j, after) := by
  unfold Json.read? at h
  dsimp only at h
  rw [String.toList_ofList] at h
  split at h
  · rename_i value after hread
    split at h
    · cases h
      exact ⟨_, _, hread⟩
    · cases h
  · cases h

theorem Json.array_of_read? {j : Json} (h : Json.read? (String.ofList ('[' :: rest)) = some j) :
    ∃ items, j = .array items := by
  obtain ⟨fuel, after, hread⟩ := Json.readValue_of_read? h
  have hskip : Json.skipSpace ('[' :: rest) = '[' :: rest := rfl
  cases fuel with
  | zero => cases hread
  | succ fuel =>
    rw [Json.readValue, hskip] at hread
    simp only [nestingLimit] at hread
    split at hread
    · exact ⟨[], by cases hread; rfl⟩
    · obtain ⟨⟨items, _⟩, -, harray⟩ := Option.map_eq_some_iff.1 hread
      exact ⟨items, by cases harray; rfl⟩

private theorem ofList_cons_ne {c : Char} {word : String} (h : word.toList.head? ≠ some c) :
    String.ofList (c :: rest) ≠ word := by
  rintro rfl
  rw [String.toList_ofList] at h
  exact h rfl

theorem MockValue.keyword?_cons {c : Char} (hc : c ∉ ['n', 'u', 't', 'f']) :
    keyword? (String.ofList (c :: rest)) = none := by
  simp only [List.mem_cons, List.not_mem_nil, or_false, not_or] at hc
  obtain ⟨hn, hu, ht, hf⟩ := hc
  have hhead {d : Char} (hd : c ≠ d) : some d ≠ some c := fun h => hd (Option.some.inj h).symm
  unfold keyword?
  rw [if_neg, if_neg, if_neg]
  · exact ofList_cons_ne (hhead hf)
  · exact ofList_cons_ne (hhead ht)
  · exact not_or.2 ⟨ofList_cons_ne (hhead hn), ofList_cons_ne (hhead hu)⟩

private theorem Text.intBetween?_bracket (low high : Int) :
    intBetween? low high ('[' :: rest) = none := by
  have hdigits : digits? ('[' :: rest) = none := if_pos (by simp)
  unfold intBetween?
  dsimp only
  rw [hdigits]
  rfl

private theorem Binary64.ofNumeral?_bracket : ofNumeral? ('[' :: rest) = none := by
  have hword : word? false ('[' :: rest) = none := by
    have hlower : '['.toLower = '[' := by decide
    unfold word?
    dsimp only
    rw [List.map_cons, hlower, if_neg, if_neg]
    · rw [beq_iff_eq]
      exact ofList_cons_ne (by decide)
    · rw [Bool.or_eq_true, beq_iff_eq, beq_iff_eq]
      exact not_or.2 ⟨ofList_cons_ne (by decide), ofList_cons_ne (by decide)⟩
  have hdigits : spanDigits ('[' :: rest) = ([], '[' :: rest) := by
    unfold spanDigits
    rw [List.span_eq_takeWhile_dropWhile]
    rfl
  have hunsigned : unsigned? false ('[' :: rest) = none := by
    unfold unsigned?
    rw [hdigits]
    rfl
  change (word? false ('[' :: rest)).orElse (fun _ => unsigned? false ('[' :: rest)) = none
  rw [hword, hunsigned]
  rfl

end Brackets

namespace Directive

/-- Whether a directive is an array literal by its brackets that is not JSON. -/
def IsUnreadableArray (d : Directive) : Prop :=
  ∃ literal, d = .fixed literal ∧ isArrayLiteral literal = true ∧
    Json.read? (Text.trimmed literal) = none

variable {literal : String}

private theorem trim_of_isArrayLiteral (h : isArrayLiteral literal = true) :
    ∃ rest, Text.trim literal.toList = '[' :: rest := by
  unfold isArrayLiteral at h
  split at h
  · cases h
  · rename_i c rest htrim
    obtain ⟨hbracket, -⟩ := Bool.and_eq_true_iff.1 h
    exact ⟨rest, by rw [htrim, beq_iff_eq.1 hbracket]⟩

private theorem ofLiteral_of_isArrayLiteral (h : isArrayLiteral literal = true) :
    MockValue.ofLiteral literal =
      ((Json.read? (Text.trimmed literal)).map MockValue.json).getD
        (.text (Text.trimmed literal)) := by
  obtain ⟨rest, htrim⟩ := trim_of_isArrayLiteral h
  have hquoted : MockValue.unquoted? ('[' :: rest) = none := by simp [MockValue.unquoted?]
  have hnumeral : MockValue.numeral? ('[' :: rest) = none := by
    unfold MockValue.numeral?
    rw [Text.intBetween?_bracket, Binary64.ofNumeral?_bracket]
    rfl
  unfold MockValue.ofLiteral Text.trimmed
  dsimp only
  rw [htrim, hquoted]
  dsimp only
  rw [MockValue.keyword?_cons (by decide), hnumeral]
  rfl

private theorem ofLiteral_isArray (h : isArrayLiteral literal = true)
    (hread : Json.read? (Text.trimmed literal) ≠ none) :
    ∃ items, (MockValue.ofLiteral literal).toJson = .array items := by
  obtain ⟨j, hj⟩ := Option.ne_none_iff_exists'.1 hread
  obtain ⟨rest, htrim⟩ := trim_of_isArrayLiteral h
  have htext : Json.read? (String.ofList ('[' :: rest)) = some j := htrim ▸ hj
  obtain ⟨items, rfl⟩ := Json.array_of_read? htext
  refine ⟨items, ?_⟩
  rw [ofLiteral_of_isArrayLiteral h, hj]
  rfl

variable {profile : MockProfile} {fieldName : String} {scalar : Option ScalarType} {d : Directive}

private theorem yields_oneToThree_isArray (draw : ValueDraw MockValue) :
    Yields (oneToThree draw) fun value => ∃ items, value.toJson = .array items :=
  yields_any.bind fun _ _ => yields_any.bind fun values _ =>
    yields_pure ⟨MockValue.itemsToJson values, rfl⟩

private theorem yields_listValue (h : ¬d.IsUnreadableArray) :
    Yields (d.listValue profile fieldName scalar) fun value =>
      ∃ items, value.toJson = .array items := by
  cases d with
  | enum options =>
    exact yields_any.bind fun names _ =>
      yields_pure ⟨MockValue.itemsToJson (names.map MockValue.text), rfl⟩
  | fixed literal =>
    unfold listValue
    dsimp only
    split
    · rename_i hliteral
      exact yields_pure (ofLiteral_isArray hliteral fun hread => h ⟨literal, rfl, hliteral, hread⟩)
    · exact yields_oneToThree_isArray _
  | faker | range | pattern | relationDepth => exact yields_oneToThree_isArray _

private theorem IsUnreadableArray.listValue_eq (h : d.IsUnreadableArray) :
    ∃ text, ∀ profile fieldName scalar,
      d.listValue profile fieldName scalar = pure (.text text) := by
  obtain ⟨literal, rfl, hliteral, hread⟩ := h
  refine ⟨Text.trimmed literal, fun profile fieldName scalar => ?_⟩
  unfold listValue
  dsimp only
  rw [if_pos hliteral, ofLiteral_of_isArrayLiteral hliteral, hread]
  rfl

end Directive

section Ones

variable {α : Type}

def ValueState.IsOnes (s : ValueState) : Prop :=
  s.stream.word = fun _ => 4294967295

private theorem boolean_ones (position : Nat) :
    (Draw.boolean.run ⟨fun _ => 4294967295, position⟩).1 = false := by
  have hword (place : Nat) : Draw.word.run ⟨fun _ => 4294967295, place⟩ =
      (pure (4294967295, ⟨fun _ => 4294967295, place + 1⟩) : Id (UInt32 × WordStream)) :=
    rfl
  unfold Draw.boolean Draw.word64
  simp only [StateT.run_bind, StateT.run_pure, hword, pure_bind]
  have hcoin : ¬((4294967295 : UInt32).toUInt64 ||| (4294967295 : UInt32).toUInt64 <<< 32).toNat <
      9223372036854775808 := by
    decide
  exact decide_eq_false hcoin

theorem leadsTo_chance_ones (condition : Bool) :
    LeadsTo ValueState.IsOnes (Sampler.chance condition) false ValueState.IsOnes := by
  cases condition with
  | false => exact leadsTo_pure false
  | true =>
    rintro ⟨⟨word, position⟩, counters, noticed⟩ hs
    obtain rfl : word = fun _ => 4294967295 := hs
    refine ⟨⟨⟨fun _ => 4294967295, position + 1 + 1⟩, counters, noticed⟩, ?_, rfl⟩
    unfold Sampler.chance
    rw [if_pos rfl]
    change (Except.ok (Draw.boolean.run ⟨fun _ => 4294967295, position⟩).1, _) = _
    rw [boolean_ones]

theorem leadsTo_notices_ones (ns : List Notice) :
    LeadsTo ValueState.IsOnes (ValueDraw.notices ns) () ValueState.IsOnes :=
  fun _ hs => ⟨_, rfl, hs⟩

private theorem leadsTo_ofValueDraw_ones {draw : ValueDraw α} {a : α}
    (h : LeadsTo ValueState.IsOnes draw a ValueState.IsOnes) :
    LeadsTo (fun s : SamplerState => s.values.IsOnes) (Sampling.ofValueDraw draw) a
      fun s => s.values.IsOnes := by
  intro s hs
  obtain ⟨t, hrun, ht⟩ := h s.values hs
  exact ⟨{ s with values := t }, by rw [ofValueDraw_run, hrun], ht⟩

end Ones

namespace Sampler

variable (sampler : Sampler)

/-- Whether a JSON value can be drawn for a field of a model, at some depth and under some bound. -/
def Draws (model : Model) (field : Field) (j : Json) : Prop :=
  ∃ (depth bound : UInt32) (before after : SamplerState) (member : MockMember MockValue),
    (sampler.member (fun target next below (_ : _ < bound.toNat - depth.toNat) =>
      sampler.record target next below) model field).run before = (.ok (some member), after) ∧
      member.toJson = j

variable {field : Field} {d : Directive}

theorem scalarSource_of_directive (hsource : field.explicitSource? = some (.directive d)) :
    field.scalarSource = .directive d := by
  simp only [Field.scalarSource, hsource]

section Arrays

variable (model : Model) (hlist : field.isList = true)
  (hsource : field.explicitSource? = some (.directive d)) (hreadable : ¬d.IsUnreadableArray)

include hlist hsource hreadable

private theorem yields_scalarList :
    Yields (sampler.scalarField model field) fun value =>
      (∃ items, value.toJson = .array items) ∨
        (value.toJson = .null ∧ field.isRequired = false) := by
  unfold scalarField
  rw [scalarSource_of_directive hsource, hlist]
  refine yields_any.bind fun _ _ => ?_
  refine (yields_ofValueDraw (yields_chance _)).bind fun null hnull => ?_
  split
  · rename_i hchance
    have hrequired : field.isRequired = false := by
      simpa using (Bool.and_eq_true_iff.1 (hnull hchance)).1
    exact yields_pure (.inr ⟨rfl, hrequired⟩)
  · exact (yields_ofValueDraw (Directive.yields_listValue hreadable)).mono fun _ => .inl

private theorem yields_enumList :
    Yields (sampler.enumField model field) fun value =>
      (∃ items, value.toJson = .array items) ∨
        (value.toJson = .null ∧ field.isRequired = false) := by
  unfold enumField
  simp only [hsource]
  refine yields_any.bind fun _ _ => ?_
  refine (yields_chance _).bind fun null hnull => ?_
  split
  · rename_i hchance
    exact yields_pure (.inr ⟨rfl, by simpa using hnull hchance⟩)
  · exact (Directive.yields_listValue hreadable).mono fun _ => .inl

private theorem yields_directedList {depth bound : UInt32} (expand : Expander depth bound)
    (hkind : field.kind = .scalar ∨ field.kind = .enum) :
    Yields (sampler.member expand model field) fun held => ∀ member, held = some member →
      (∃ items, member.toJson = .array items) ∨
        (member.toJson = .null ∧ field.isRequired = false) := by
  refine (sampler.yields_valueMember expand model hkind
    (fun _ => sampler.yields_scalarList model hlist hsource hreadable)
    (fun _ => sampler.yields_enumList model hlist hsource hreadable)).mono ?_
  rintro _ ⟨value, rfl, hvalue⟩ _ ⟨⟩
  exact hvalue

end Arrays

section Texts

variable (model : Model) (hlist : field.isList = true)
  (hsource : field.explicitSource? = some (.directive d)) {text : String}
  (htext : ∀ scalar, d.listValue sampler.profile field.name scalar = pure (.text text))

include hlist hsource htext

private theorem leadsTo_scalarList :
    LeadsTo (fun s : SamplerState => s.values.IsOnes) (sampler.scalarField model field)
      (.text text) fun s => s.values.IsOnes := by
  unfold scalarField
  rw [scalarSource_of_directive hsource, hlist]
  refine (leadsTo_ofValueDraw_ones (leadsTo_notices_ones _)).bind ?_
  refine (leadsTo_ofValueDraw_ones (leadsTo_chance_ones _)).bind ?_
  simp only [htext]
  exact leadsTo_pure _

private theorem leadsTo_enumList :
    LeadsTo ValueState.IsOnes (sampler.enumField model field) (.text text) ValueState.IsOnes := by
  unfold enumField
  simp only [hsource]
  refine (leadsTo_notices_ones _).bind ?_
  refine (leadsTo_chance_ones _).bind ?_
  simp only [hlist, htext]
  exact leadsTo_pure _

private theorem draws_text (hkind : field.kind = .scalar ∨ field.kind = .enum) :
    sampler.Draws model field (.string text) := by
  let ones : SamplerState := ⟨⟨⟨fun _ => 4294967295, 0⟩, Dictionary.empty, []⟩, UniqueLedger.empty⟩
  let expand : Expander 0 0 := fun target next below _ => sampler.record target next below
  have hmember : LeadsTo (fun s : SamplerState => s.values.IsOnes)
      (sampler.member expand model field) (some (.value (.text text)))
        fun s => s.values.IsOnes := by
    unfold Sampler.member
    rcases hkind with hkind | hkind
    · rw [hkind]
      exact (sampler.leadsTo_scalarList model hlist hsource htext).bind (leadsTo_pure _)
    · rw [hkind]
      exact (leadsTo_ofValueDraw_ones (sampler.leadsTo_enumList model hlist hsource htext)).bind
        (leadsTo_pure _)
  obtain ⟨after, hrun, -⟩ := hmember ones rfl
  exact ⟨0, 0, ones, after, .value (.text text), hrun, rfl⟩

end Texts

/-- What is drawn for a list field that follows a directive is an array, or null for an optional one,
exactly where the directive is no array literal that cannot be read. -/
theorem draws_arrays_iff (model : Model) (hkind : field.kind = .scalar ∨ field.kind = .enum)
    (hlist : field.isList = true) (hsource : field.explicitSource? = some (.directive d)) :
    (∀ j, sampler.Draws model field j →
      (∃ items, j = .array items) ∨ (j = .null ∧ field.isRequired = false)) ↔
      ¬d.IsUnreadableArray := by
  constructor
  · intro harrays hunreadable
    obtain ⟨text, htext⟩ := hunreadable.listValue_eq
    have hdrawn := sampler.draws_text model hlist hsource (fun scalar => htext _ _ scalar) hkind
    rcases harrays _ hdrawn with ⟨_, harray⟩ | ⟨hnull, -⟩
    · cases harray
    · cases hnull
  · rintro hreadable _ ⟨_, _, before, after, member, hrun, rfl⟩
    exact sampler.yields_directedList model hlist hsource hreadable _ hkind before after
      (some member) hrun member rfl

/-- A list of texts whose mock is a literal. -/
def codes (literal : String) : Field :=
  { Field.bare "codes" .scalar "String" with
    isList := true
    isRequired := true
    documentation := some ("@mock " ++ literal) }

theorem draws_arrays_iff_codes :
    let field := codes "[\"x\", \"y\"]"
    field.explicitSource? = some (.directive (.fixed "[\"x\", \"y\"]")) ∧
      ∀ j, (ofConfig .standard ⟨[], [], []⟩ .standard).Draws (Model.bare "Bag" [field]) field j →
        ∃ items, j = .array items := by
  intro field
  have hsource : field.explicitSource? = some (.directive (.fixed "[\"x\", \"y\"]")) := by
    decide +kernel
  have hreadable : ¬(Directive.fixed "[\"x\", \"y\"]").IsUnreadableArray := by
    rintro ⟨_, hd, -, hread⟩
    cases hd
    revert hread
    decide +kernel
  refine ⟨hsource, fun j hj => ?_⟩
  have harrays := (draws_arrays_iff (ofConfig .standard ⟨[], [], []⟩ .standard) (Model.bare "Bag" [field])
    (.inl rfl) rfl hsource).2 hreadable
  rcases harrays j hj with harray | ⟨-, hoptional⟩
  · exact harray
  · cases hoptional

/-- With single quotes the literal is still an array by its brackets, and no JSON: the record holds
one text in place of a list. -/
theorem bracketed_text_in_list :
    let field := codes "['x', 'y']"
    field.explicitSource? = some (.directive (.fixed "['x', 'y']")) ∧
      (((ofConfig .standard ⟨[Model.bare "Bag" [field]], [], []⟩ .standard).sample "Bag" 1).run
        (.ofSeed 0)).1 = .ok [.object [("codes", .string "['x', 'y']")]] := by
  decide +kernel

end Sampler

end SchemaMocks
