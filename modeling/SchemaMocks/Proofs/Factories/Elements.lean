import SchemaMocks.Proofs.Datamodel.Validation
import SchemaMocks.Proofs.Directive.Marks
import SchemaMocks.TypeScript.Factory

set_option autoImplicit false
set_option relaxedAutoImplicit false

/-!
The elements of repeated values. A list is filled by an arrow function whose body is the expression
of one element, so that an expression that begins with a brace becomes a block. This happens to
lists of JSON values without a stated source, and to literals that begin with a brace themselves.
-/

namespace SchemaMocks

namespace Text

private theorem head?_trim_of_visible {c : Char} (hc : isBlank c = false) (cs : List Char) :
    (trim (c :: cs)).head? = some c := by
  unfold trim
  rw [trimFront_cons_of_visible hc]
  induction cs using List.reverseRecOn with
  | nil =>
    have hone : trimBack ([] ++ [c]) = [] ++ [c] := trimBack_concat_of_visible hc
    rw [List.nil_append] at hone
    rw [hone, List.head?_cons]
  | append_singleton cs d ih =>
    rw [← List.cons_append]
    cases hd : isBlank d with
    | true => rw [trimBack_concat_of_blank hd, ih]
    | false => rw [trimBack_concat_of_visible hd, List.cons_append, List.head?_cons]

end Text

namespace Directive

open Text

section Arguments

variable {form : List Char → Option Finding} {cs : List Char}

def hasArguments : Directive → Bool
  | faker _ | fixed _ => false
  | _ => true

private theorem exists_of_leftmost {finding : Finding} (h : leftmost form cs = some finding) :
    ∃ rest, form rest = some finding := by
  induction cs with
  | nil => exact ⟨[], h⟩
  | cons c rest ih =>
    rw [leftmost] at h
    cases hform : form (c :: rest) with
    | none =>
      rw [hform] at h
      exact ih h
    | some found =>
      rw [hform] at h
      exact ⟨c :: rest, hform.trans h⟩

private theorem hasArguments_of_rangeOf? {low high : List Char} {d : Directive}
    (h : rangeOf? low high = some d) : d.hasArguments = true := by
  unfold rangeOf? at h
  split at h
  · split_ifs at h
    cases h
    rfl
  · cases h

private theorem hasArguments_of_form {entry : String × (List Char → Option Finding)} {d : Directive}
    (hentry : entry ∈ forms) (h : entry.2 cs = some (some d)) : d.hasArguments = true := by
  simp only [forms, List.mem_cons, List.not_mem_nil, or_false] at hentry
  rcases hentry with rfl | rfl | rfl | rfl
  · obtain ⟨rest, -, h⟩ := Option.bind_eq_some_iff.1 h
    obtain ⟨⟨low, rest⟩, -, h⟩ := Option.bind_eq_some_iff.1 h
    dsimp only at h
    split at h
    · obtain ⟨⟨high, rest⟩, -, h⟩ := Option.bind_eq_some_iff.1 h
      dsimp only at h
      split at h
      · exact hasArguments_of_rangeOf? (Option.some.inj h)
      · cases h
    · cases h
  · obtain ⟨rest, -, h⟩ := Option.bind_eq_some_iff.1 h
    split at h
    · split_ifs at h
      obtain ⟨body, -, h⟩ := Option.bind_eq_some_iff.1 h
      cases h
      rfl
    · cases h
  · obtain ⟨rest, -, h⟩ := Option.bind_eq_some_iff.1 h
    obtain ⟨body, -, h⟩ := Option.bind_eq_some_iff.1 h
    split_ifs at h
    cases h
    rfl
  · obtain ⟨rest, -, h⟩ := Option.bind_eq_some_iff.1 h
    obtain ⟨⟨digits, rest⟩, -, h⟩ := Option.bind_eq_some_iff.1 h
    dsimp only at h
    split at h
    · obtain ⟨n, -, hd⟩ := Option.map_eq_some_iff.1 (Option.some.inj h)
      cases hd
      rfl
    · cases h

private theorem startsWith_of_ofLine? {line expression : String}
    (h : ofLine? line = some (.faker expression)) : startsWith expression "faker." = true := by
  unfold ofLine? at h
  dsimp only at h
  split at h
  · unfold bare? at h
    dsimp only at h
    split_ifs at h with hfaker
    · cases h
      simpa [startsWith] using hfaker
    · cases h
  · rw [withArguments?_eq, Option.join_eq_some_iff] at h
    obtain ⟨entry, hentry, hfound⟩ := List.exists_of_findSome?_eq_some h
    obtain ⟨rest, hform⟩ := exists_of_leftmost hfound
    cases hasArguments_of_form hentry hform

end Arguments

end Directive

open Text (startsWith)

namespace Field

variable {field : Field} {d : Directive}

private theorem startsWith_of_directive? {expression : String}
    (h : field.directive? = some (.faker expression)) :
    startsWith expression "faker." = true := by
  obtain ⟨line, -, hline⟩ := List.mem_filterMap.1 (List.mem_of_find?_eq_some h)
  exact Directive.startsWith_of_ofLine? hline

/-- A field whose elements are written with a brace in front: a JSON value without a stated source,
or a literal that begins with a brace. -/
inductive BracedElement (field : Field) : Prop where
  | record (hkind : field.kind = .scalar) (hsource : field.explicitSource? = none)
      (htype : field.scalar? = some .json)
  | literal (value : String) (hkind : field.kind = .scalar ∨ field.kind = .enum)
      (hvalue : field.directive? = some (.fixed value)) (hbrace : startsWith value "\x7b" = true)

private theorem BracedElement.kind_eq (h : field.BracedElement) :
    field.kind = .scalar ∨ field.kind = .enum := by
  cases h with
  | record hkind => exact .inl hkind
  | literal _ hkind => exact hkind

end Field

private theorem SemanticType.accepts_json (semantic : SemanticType) :
    semantic.accepts .json = false := by
  cases semantic <;> rfl

namespace TypeScript

/-- The element that an expression repeats, under the coin of an optional field too. -/
def MockExpr.repeated? : MockExpr → Option MockExpr
  | repeated element => some element
  | maybe value => value.repeated?
  | _ => none

def MemberExpr.repeated? : MemberExpr → Option MockExpr
  | sourced _ value | declared value => value.repeated?
  | relation _ => none

namespace MockExpr

def isBraced (value : MockExpr) : Bool :=
  startsWith value.render "\x7b"

variable {config : GeneratorConfig} {field : Field} {scalar : Option ScalarType} {d : Directive}

private theorem isBraced_eq_false {value : MockExpr} {c : Char}
    (hrender : value.render.toList.head? = some c) (hc : c ≠ '\x7b') : value.isBraced = false := by
  obtain ⟨rest, hrest⟩ := List.head?_eq_some_iff.1 hrender
  unfold isBraced startsWith
  rw [hrest]
  exact Bool.and_eq_false_imp.2 fun heq => absurd (beq_iff_eq.1 heq).symm hc

private theorem isBraced_recentDate (days : UInt32) : (recentDate days).isBraced = false := by
  refine isBraced_eq_false (c := 'f') ?_ (by decide)
  unfold render
  rw [String.toList_append, String.toList_append, List.append_assoc]
  rfl

private theorem isBraced_code {text : String} (h : startsWith text "\x7b" = false) :
    (code text).isBraced = false :=
  h

private theorem isBraced_null : null.isBraced = false := by
  decide

private theorem isBraced_ofType (config : GeneratorConfig) (scalar : ScalarType) :
    (ofType config scalar).isBraced = decide (scalar = .json) := by
  cases scalar with
  | json =>
    have hbraced : ∀ text, startsWith text "\x7b" = true → (code text).isBraced = true :=
      fun _ h => h
    exact hbraced _ (by decide)
  | dateTime => exact isBraced_recentDate _
  | _ => exact isBraced_code (by decide)

private theorem isBraced_ofSemantic {semantic : SemanticType} {scalar : ScalarType}
    (haccepts : semantic.accepts scalar = true) (config : GeneratorConfig) (name : String) :
    (ofSemantic config scalar name semantic).isBraced = false := by
  unfold ofSemantic
  cases semantic with
  | unknown => cases haccepts
  | date =>
    dsimp only
    split
    · exact isBraced_code (by decide)
    · exact isBraced_recentDate _
  | address | person =>
    dsimp only
    split
    · exact isBraced_code (by decide)
    · split <;> exact isBraced_code (by decide)
  | image | price =>
    dsimp only
    split <;> exact isBraced_code (by decide)
  | _ => exact isBraced_code (by decide)

private theorem isBraced_ofDirective (hsource : field.directive? = some d) :
    (ofDirective scalar d).isBraced = true ↔
      ∃ value, d = .fixed value ∧ startsWith value "\x7b" = true := by
  have hother (hfalse : (ofDirective scalar d).isBraced = false) (hne : ∀ value, d ≠ .fixed value) :
      (ofDirective scalar d).isBraced = true ↔
        ∃ value, d = .fixed value ∧ startsWith value "\x7b" = true := by
    rw [hfalse]
    exact iff_of_false Bool.false_ne_true fun ⟨value, heq, _⟩ => hne value heq
  cases d with
  | fixed value =>
    constructor
    · exact fun h => ⟨value, rfl, h⟩
    · rintro ⟨_, heq, h⟩
      cases heq
      exact h
  | faker expression =>
    refine hother (isBraced_eq_false (c := 'f') ?_ (by decide)) nofun
    have hfaker := Field.startsWith_of_directive? hsource
    obtain ⟨rest, hrest⟩ := List.isPrefixOf_iff_prefix.1 hfaker
    unfold ofDirective render
    rw [← hrest]
    rfl
  | range min max =>
    refine hother (isBraced_eq_false (c := 'f') ?_ (by decide)) nofun
    unfold ofDirective render
    simp only [String.toList_append, List.append_assoc]
    rfl
  | pattern pattern =>
    refine hother (isBraced_eq_false (c := 'f') ?_ (by decide)) nofun
    unfold ofDirective render
    simp only [String.toList_append, List.append_assoc]
    rfl
  | enum options =>
    refine hother ?_ nofun
    simp only [ofDirective]
    split
    · exact isBraced_null
    · refine isBraced_eq_false (c := 'f') ?_ (by decide)
      unfold render
      simp only [String.toList_append, List.append_assoc]
      rfl
  | relationDepth depth =>
    exact hother isBraced_null nofun

section Repeated

variable {source : MockSource} {value element : MockExpr}

private theorem repeated?_underCoin (field : Field) (source : MockSource) (value : MockExpr) :
    (underCoin field source value).repeated? = value.repeated? := by
  unfold underCoin
  split <;> rfl

private theorem repeated?_ofDirective (scalar : Option ScalarType) (d : Directive) :
    (ofDirective scalar d).repeated? = none := by
  unfold ofDirective
  split
  case h_5 => split <;> rfl
  all_goals rfl

private theorem repeated?_ofDefault (scalar : Option ScalarType) (d : DefaultMock) :
    (ofDefault scalar d).repeated? = none := by
  unfold ofDefault
  split
  case h_8 | h_9 => split <;> rfl
  all_goals rfl

private theorem repeated?_ofType (config : GeneratorConfig) (scalar : ScalarType) :
    (ofType config scalar).repeated? = none := by
  cases scalar <;> rfl

private theorem repeated?_ofSemantic (config : GeneratorConfig) (scalar : ScalarType)
    (name : String)
    (semantic : SemanticType) : (ofSemantic config scalar name semantic).repeated? = none := by
  unfold ofSemantic
  cases semantic with
  | unknown => exact repeated?_ofType config scalar
  | address | person =>
    dsimp only
    split
    · rfl
    · split <;> rfl
  | image | date | price =>
    dsimp only
    split <;> rfl
  | _ => rfl

private theorem repeated?_ofSource (config : GeneratorConfig) (field : Field)
    (source : MockSource) :
    (ofSource config field source).repeated? = none := by
  cases source with
  | directive d => exact repeated?_ofDirective _ d
  | default d => exact repeated?_ofDefault _ d
  | semantic s scalar => exact repeated?_ofSemantic config scalar field.name s
  | typeDefault scalar => exact repeated?_ofType config scalar
  | placeholder => rfl

private theorem not_isArrayLiteral {value : String} (h : startsWith value "\x7b" = true) :
    Directive.isArrayLiteral value = false := by
  obtain ⟨rest, hrest⟩ := List.isPrefixOf_iff_prefix.1 h
  have hhead : (Text.trim value.toList).head? = some '\x7b' := by
    rw [← hrest]
    exact Text.head?_trim_of_visible rfl rest
  obtain ⟨tail, htail⟩ := List.head?_eq_some_iff.1 hhead
  unfold Directive.isArrayLiteral
  rw [htail]
  rfl

private theorem repeated?_ofListDirective (hsource : field.directive? = some d) :
    (∃ element, (ofListDirective scalar d).repeated? = some element ∧ element.isBraced = true) ↔
      ∃ value, d = .fixed value ∧ startsWith value "\x7b" = true := by
  have hbraced : (ofDirective scalar d).isBraced = true ↔ _ := isBraced_ofDirective hsource
  rw [← hbraced]
  cases d with
  | fixed value =>
    cases harray : Directive.isArrayLiteral value with
    | true =>
      have hbrace : (ofDirective scalar (.fixed value)).isBraced = false := by
        rw [← Bool.not_eq_true]
        intro hbrace
        have hnone : Directive.isArrayLiteral value = false := not_isArrayLiteral hbrace
        rw [harray] at hnone
        cases hnone
      simp [ofListDirective, harray, repeated?, hbrace]
    | false => simp [ofListDirective, harray, repeated?]
  | enum options =>
    have hbrace : (ofDirective scalar (.enum options)).isBraced = false := by
      rw [← Bool.not_eq_true, isBraced_ofDirective hsource]
      rintro ⟨_, heq, -⟩
      cases heq
    rw [hbrace]
    simp only [ofListDirective]
    split <;> simp [repeated?]
  | relationDepth depth => simp [ofListDirective, repeated?, ofDirective, isBraced_null]
  | _ => simp [ofListDirective, repeated?]

private theorem repeated?_scalarValue (config : GeneratorConfig) (hlist : field.isList = true) :
    (∃ element, (scalarValue config field field.scalarSource).repeated? = some element ∧
        element.isBraced = true) ↔
      (field.explicitSource? = none ∧ field.scalar? = some .json) ∨
        ∃ value, field.directive? = some (.fixed value) ∧ startsWith value "\x7b" = true := by
  have hstated : ∀ value, field.directive? = some (.fixed value) → field.explicitSource? ≠ none :=
    fun value hvalue hnone => by
      rw [Field.explicitSource?_of_fixed hvalue] at hnone
      cases hnone
  unfold scalarValue Field.scalarSource
  rw [if_pos hlist]
  cases hsource : field.explicitSource? with
  | some source =>
    rcases Field.explicitSource?_cases hsource with ⟨d, rfl, hd⟩ | ⟨d, rfl, hd⟩
    · simp only [repeated?_ofListDirective hd, hd, Option.some.injEq, reduceCtorEq, false_and,
        false_or]
    · have hnone : ∀ value, field.directive? ≠ some (.fixed value) := hd
      simp [ofSource, repeated?_ofDefault, hnone]
  | none =>
    have hnone : ∀ value, field.directive? ≠ some (.fixed value) := fun value hvalue =>
      hstated value hvalue hsource
    cases htype : field.scalar? with
    | none => simp [ofSource, repeated?, hnone]
    | some scalar =>
      cases haccepts : (SemanticType.ofName field.name).accepts scalar with
      | true =>
        have hjson : scalar ≠ .json := by
          rintro rfl
          rw [SemanticType.accepts_json] at haccepts
          cases haccepts
        simp [haccepts, repeated?, ofSource, isBraced_ofSemantic haccepts, hjson, hnone]
      | false => simp [haccepts, repeated?, ofSource, isBraced_ofType, hnone]

end Repeated

private theorem repeated?_of_single (hlist : field.isList = false) :
    (scalarValue config field field.scalarSource).repeated? = none := by
  unfold scalarValue
  rw [if_neg (by simp [hlist])]
  exact repeated?_ofSource config field _

private theorem repeated?_ofEnumField (doc : Document) (field : Field) :
    (∃ element, (ofEnumField doc field).repeated? = some element ∧ element.isBraced = true) ↔
      field.isList = true ∧
        ∃ value, field.directive? = some (.fixed value) ∧ startsWith value "\x7b" = true := by
  unfold ofEnumField
  cases hsource : field.explicitSource? with
  | some source =>
    simp only [repeated?_underCoin]
    rcases Field.explicitSource?_cases hsource with ⟨d, rfl, hd⟩ | ⟨d, rfl, hd⟩
    · cases hlist : field.isList with
      | true => simp [enumValue, hlist, repeated?_ofListDirective hd, hd]
      | false => simp [enumValue, hlist, repeated?_ofDirective]
    · simp [enumValue, repeated?_ofDefault, hd]
  | none =>
    have hnone : ∀ value, field.directive? ≠ some (.fixed value) := fun value hvalue => by
      rw [Field.explicitSource?_of_fixed hvalue] at hsource
      cases hsource
    have hdeclared : (ofDeclared field (doc.enum? field.typeName)).repeated? = none := by
      unfold ofDeclared
      split
      · rfl
      · rfl
      · cases field.isRequired <;> cases field.isList <;> rfl
    simp [hdeclared, hnone]

end MockExpr

section Members

variable {config : GeneratorConfig} {doc : Document} {field : Field}

private theorem repeated?_ofField?_scalar (hkind : field.kind = .scalar) :
    (MemberExpr.ofField? config doc field).bind MemberExpr.repeated? =
      (MockExpr.ofScalarField config field).repeated? := by
  rw [MemberExpr.ofField?, hkind]
  rfl

private theorem repeated?_ofField?_enum (hkind : field.kind = .enum) :
    (MemberExpr.ofField? config doc field).bind MemberExpr.repeated? =
      (MockExpr.ofEnumField doc field).repeated? := by
  rw [MemberExpr.ofField?, hkind]
  cases field.explicitSource? <;> rfl

private theorem repeated?_ofField?_other (hscalar : field.kind ≠ .scalar)
    (henum : field.kind ≠ .enum) :
    (MemberExpr.ofField? config doc field).bind MemberExpr.repeated? = none := by
  unfold MemberExpr.ofField?
  cases hkind : field.kind with
  | scalar => exact absurd hkind hscalar
  | enum => exact absurd hkind henum
  | relation => rfl
  | unsupported => rfl

private theorem braced_scalar_iff (hkind : field.kind = .scalar) :
    (∃ element, (MockExpr.ofScalarField config field).repeated? = some element ∧
        element.isBraced = true) ↔
      field.isList = true ∧ field.BracedElement := by
  rw [MockExpr.ofScalarField, MockExpr.repeated?_underCoin]
  cases hlist : field.isList with
  | false => simp [MockExpr.repeated?_of_single hlist]
  | true =>
    rw [MockExpr.repeated?_scalarValue config hlist]
    constructor
    · rintro (⟨hsource, htype⟩ | ⟨value, hvalue, hbrace⟩)
      · exact ⟨rfl, .record hkind hsource htype⟩
      · exact ⟨rfl, .literal value (.inl hkind) hvalue hbrace⟩
    · rintro ⟨-, ⟨-, hsource, htype⟩ | ⟨value, -, hvalue, hbrace⟩⟩
      · exact .inl ⟨hsource, htype⟩
      · exact .inr ⟨value, hvalue, hbrace⟩

private theorem braced_enum_iff (hkind : field.kind = .enum) :
    (∃ element, (MockExpr.ofEnumField doc field).repeated? = some element ∧
        element.isBraced = true) ↔
      field.isList = true ∧ field.BracedElement := by
  rw [MockExpr.repeated?_ofEnumField]
  refine and_congr_right fun _ => ?_
  constructor
  · rintro ⟨value, hvalue, hbrace⟩
    exact .literal value (.inr hkind) hvalue hbrace
  · rintro (⟨hscalar, -, -⟩ | ⟨value, -, hvalue, hbrace⟩)
    · cases hkind.symm.trans hscalar
    · exact ⟨value, hvalue, hbrace⟩

end Members

/-- A list is filled with an expression that begins with a brace exactly where it holds JSON values
without a stated source, or where its literal begins with a brace. -/
theorem braced_element_iff (config : GeneratorConfig) (doc : Document) (field : Field) :
    (∃ member element, MemberExpr.ofField? config doc field = some member ∧
        member.repeated? = some element ∧ startsWith element.render "\x7b" = true) ↔
      field.isList = true ∧ field.BracedElement := by
  have hmember : (∃ member element, MemberExpr.ofField? config doc field = some member ∧
      member.repeated? = some element ∧ startsWith element.render "\x7b" = true) ↔
        ∃ element, (MemberExpr.ofField? config doc field).bind MemberExpr.repeated? =
          some element ∧ element.isBraced = true := by
    simp only [Option.bind_eq_some_iff, MockExpr.isBraced]
    constructor
    · rintro ⟨member, element, hmember, helement, hbrace⟩
      exact ⟨element, ⟨member, hmember, helement⟩, hbrace⟩
    · rintro ⟨element, ⟨member, hmember, helement⟩, hbrace⟩
      exact ⟨member, element, hmember, helement, hbrace⟩
  rw [hmember]
  by_cases hscalar : field.kind = .scalar
  · rw [repeated?_ofField?_scalar hscalar, braced_scalar_iff hscalar]
  by_cases henum : field.kind = .enum
  · rw [repeated?_ofField?_enum henum, braced_enum_iff henum]
  rw [repeated?_ofField?_other hscalar henum]
  refine iff_of_false nofun ?_
  rintro ⟨-, hbraced⟩
  exact hbraced.kind_eq.elim hscalar henum

/-- A list of JSON values is filled by an arrow function with a block, which gives no value. -/
theorem record_repeated_as_block :
    let field := { Field.bare "payloads" .scalar "Json" with isList := true, isRequired := true }
    let record := "\x7b key: faker.string.alpha(5), "
      ++ "value: faker.number.int(\x7b min: 1, max: 100 \x7d) \x7d"
    (MockExpr.ofScalarField .standard field).repeated?.map MockExpr.render = some record ∧
      (MockExpr.ofScalarField .standard field).render =
        "Array.from(\x7b length: faker.number.int(\x7b min: 1, max: 3 \x7d) \x7d, () => "
          ++ record ++ ")" := by
  decide +kernel

end TypeScript

end SchemaMocks
