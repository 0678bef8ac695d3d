import SchemaMocks.Proofs.Datamodel.Validation
import SchemaMocks.Proofs.Text.Folding
import SchemaMocks.TypeScript.MockExpr
import SchemaMocks.TypeScript.Schema

set_option autoImplicit false
set_option relaxedAutoImplicit false

/-!
Text checks of schemas and the mocks they meet. The schema of a text field checks for what the name
of the field contains; its mock follows the first kind that the name suggests. An e-mail address is
what the first kind of all suggests, so that its check always meets one. Three kinds come before the
ones whose mocks are links, so that a check for a link can meet something else.
-/

namespace SchemaMocks

namespace SemanticType

def rank (kind : SemanticType) : Nat :=
  (keywords.map (·.1)).idxOf kind

private theorem pairwise_rank : (keywords.map (·.1)).Pairwise fun a b => rank a < rank b := by
  decide

variable {name : String} {kind : SemanticType}

private theorem mem_suggestedBy {words : List String} {word : String}
    (hkind : (kind, words) ∈ keywords)
    (hword : word ∈ words) (hplain : Text.IsPlainWord word.toList)
    (h : Text.contains (Text.lowered name) word = true) : kind ∈ suggestedBy name := by
  have hoccurs : occurs (name.toList.map Text.fold) word = true := by
    rw [occurs, hplain.map_fold]
    exact Text.occursIn_folded hplain h
  have hany : words.any (occurs (name.toList.map Text.fold)) = true :=
    List.any_eq_true.2 ⟨word, hword, hoccurs⟩
  exact List.mem_map.2 ⟨(kind, words), List.mem_filter.2 ⟨hkind, hany⟩, rfl⟩

private theorem rank_ofName_le (h : kind ∈ suggestedBy name) :
    ofName name ∈ suggestedBy name ∧ rank (ofName name) ≤ rank kind := by
  have hsorted := pairwise_rank.sublist (suggestedBy_sublist name)
  rw [ofName_eq_headD]
  cases hsuggested : suggestedBy name with
  | nil =>
    rw [hsuggested] at h
    cases h
  | cons first rest =>
    rw [hsuggested] at h hsorted
    refine ⟨List.mem_cons_self, ?_⟩
    rcases List.mem_cons.1 h with rfl | hrest
    · exact Nat.le_refl _
    · exact Nat.le_of_lt ((List.pairwise_cons.1 hsorted).1 kind hrest)

/-- The kinds that come before the ones whose mocks are links. -/
def beforeLinks : List SemanticType :=
  [email, phone, address]

private theorem mem_beforeLinks_of_rank : rank kind ≤ rank address → kind ∈ beforeLinks := by
  cases kind <;> decide

private theorem rank_of_mem_beforeLinks : kind ∈ beforeLinks → rank kind ≤ rank address := by
  cases kind <;> decide

private theorem link_of_rank :
    rank kind ≤ rank url → kind ∈ beforeLinks ∨ kind = image ∨ kind = url := by
  cases kind <;> decide

private theorem ofName_eq_email (h : email ∈ suggestedBy name) : ofName name = email := by
  have hrank := (rank_ofName_le h).2
  revert hrank
  cases ofName name <;> decide

private theorem ofName_isLink_iff (h : url ∈ suggestedBy name) :
    ofName name = url ∨ ofName name = image ↔ ∀ kind ∈ beforeLinks, kind ∉ suggestedBy name := by
  constructor
  · intro hlink kind hkind hsuggested
    have hrank := Nat.le_trans (rank_ofName_le hsuggested).2 (rank_of_mem_beforeLinks hkind)
    rcases hlink with hlink | hlink <;> rw [hlink] at hrank <;> exact absurd hrank (by decide)
  · intro hnone
    obtain ⟨hsuggested, hrank⟩ := rank_ofName_le h
    rcases link_of_rank hrank with hbefore | himage | hurl
    · exact absurd hsuggested (hnone _ hbefore)
    · exact .inr himage
    · exact .inl hurl

private theorem ofName_mem_beforeLinks (hkind : kind ∈ beforeLinks) (h : kind ∈ suggestedBy name) :
    ofName name ∈ beforeLinks :=
  mem_beforeLinks_of_rank
    (Nat.le_trans (rank_ofName_le h).2 (rank_of_mem_beforeLinks hkind))

end SemanticType

namespace TypeScript

/-- The mocks that pass a check. -/
def TextCheck.mocks : TextCheck → List MockExpr
  | email => [.code "faker.internet.email()"]
  | url =>
    [.code "faker.internet.url()", .code "faker.image.url()", .code "faker.image.avatar()"]
  | cuid => [.ofDefault none .cuid]
  | uuid => [.ofDefault none .uuid]

/-- The checks that a schema makes on texts. -/
def SchemaExpr.checks : SchemaExpr → List TextCheck
  | string checks => checks
  | array inner | nullable inner | optional inner => inner.checks
  | _ => []

section Checks

open SemanticType

variable {config : GeneratorConfig} {doc : Document} {field : Field}

private theorem checks_ofField (config : GeneratorConfig) (doc : Document)
    (hkind : field.kind = .scalar)
    (htype : field.scalar? = some .string) :
    (SchemaExpr.ofField config doc field).checks = SchemaExpr.textChecks config field := by
  have helement : SchemaExpr.element config doc field =
      .string (SchemaExpr.textChecks config field) := by
    unfold SchemaExpr.element
    rw [hkind, htype]
    rfl
  unfold SchemaExpr.ofField
  rw [helement]
  cases field.isList <;> cases field.isRequired <;> cases field.hasDefault <;> rfl

private theorem defaultFunction_unusable (hsource : field.explicitSource? = none) :
    field.defaultFunction? ≠ some "cuid" ∧ field.defaultFunction? ≠ some "uuid" := by
  have hdefault : field.defaultValue.bind DefaultMock.ofDefault? = none := by
    unfold Field.explicitSource? at hsource
    split at hsource
    · exact Option.map_eq_none_iff.1 hsource
    · exact Option.map_eq_none_iff.1 hsource
    · cases hsource
  have hfunction (name : String) (hname : (Entries.get? name DefaultMock.functions).isSome) :
      field.defaultFunction? ≠ some name := by
    intro hfunction
    unfold Field.defaultFunction? at hfunction
    split at hfunction
    · rename_i function args hvalue
      obtain rfl := Option.some.inj hfunction
      have hmock : Entries.get? function DefaultMock.functions = none := by
        rw [hvalue] at hdefault
        exact hdefault
      rw [hmock] at hname
      cases hname
    · cases hfunction
  exact ⟨hfunction "cuid" (by decide +kernel), hfunction "uuid" (by decide +kernel)⟩

private theorem mem_textChecks {check : TextCheck} (hsource : field.explicitSource? = none)
    (h : check ∈ SchemaExpr.textChecks config field) :
    check = .email ∧ SemanticType.email ∈ suggestedBy field.name ∨
      check = .url ∧ SemanticType.url ∈ suggestedBy field.name := by
  unfold SchemaExpr.textChecks at h
  dsimp only at h
  split at h
  · rcases List.mem_append.1 h with hnamed | hkey
    · rcases List.mem_append.1 hnamed with hcheck | hcheck <;> split at hcheck
      · rename_i hname
        have hkeyword : (SemanticType.email, ["email", "mail"]) ∈ keywords := by decide
        exact .inl ⟨List.mem_singleton.1 hcheck,
          mem_suggestedBy hkeyword (by decide +kernel) (by decide +kernel) hname⟩
      · cases hcheck
      · rename_i hname
        have hkeyword : (SemanticType.url, ["url", "website", "link", "homepage"]) ∈ keywords := by
          decide
        exact .inr ⟨List.mem_singleton.1 hcheck,
          mem_suggestedBy hkeyword (by decide +kernel) (by decide +kernel) hname⟩
      · cases hcheck
    · obtain ⟨hcuid, huuid⟩ := defaultFunction_unusable hsource
      split at hkey
      · split at hkey
        · rename_i hfunction
          exact absurd hfunction hcuid
        · rename_i hfunction
          exact absurd hfunction huuid
        · cases hkey
      · cases hkey
  · cases h

/-- A text field without a source that the document states follows the meaning of its name, where
that is one of those before the links, or a link. -/
private theorem scalarSource_eq_semantic (hsource : field.explicitSource? = none)
    (htype : field.scalar? = some .string) {kind : SemanticType}
    (hkind : kind ∈ beforeLinks ∨ kind = .image ∨ kind = .url) :
    field.scalarSource = .semantic kind .string ↔ ofName field.name = kind := by
  have haccepts : kind.accepts .string = true := by
    revert hkind
    cases kind <;> decide
  unfold Field.scalarSource
  simp only [hsource, htype]
  constructor
  · intro h
    split at h
    · exact (MockSource.semantic.inj h).1
    · cases h
  · intro h
    rw [h, if_pos haccepts]

private theorem ofSemantic_notMem_url (config : GeneratorConfig) (name : String)
    {kind : SemanticType}
    (hkind : kind ∈ beforeLinks) :
    MockExpr.ofSemantic config .string name kind ∉ TextCheck.url.mocks := by
  have hcases : kind = .email ∨ kind = .phone ∨ kind = .address := by
    simpa [beforeLinks] using hkind
  rcases hcases with rfl | rfl | rfl
  · change MockExpr.code "faker.internet.email()" ∉ TextCheck.url.mocks
    decide
  · change MockExpr.code "faker.phone.number()" ∉ TextCheck.url.mocks
    decide
  · unfold MockExpr.ofSemantic
    dsimp only
    split
    · decide
    · split <;> decide

private theorem ofSemantic_mem_url (config : GeneratorConfig) (name : String) {kind : SemanticType}
    (hkind : kind = .url ∨ kind = .image) :
    MockExpr.ofSemantic config .string name kind ∈ TextCheck.url.mocks := by
  rcases hkind with rfl | rfl
  · exact List.mem_cons_self
  · unfold MockExpr.ofSemantic
    dsimp only
    split <;> decide

private theorem means_email (hsource : field.explicitSource? = none)
    (htype : field.scalar? = some .string)
    (h : .email ∈ SchemaExpr.textChecks config field) :
    field.scalarSource = .semantic .email .string := by
  rcases mem_textChecks hsource h with ⟨-, hsuggested⟩ | ⟨hurl, -⟩
  · exact (scalarSource_eq_semantic hsource htype (.inl (by decide))).2 (ofName_eq_email hsuggested)
  · cases hurl

/-- Where a link is checked for, the field means one unless its name suggests something else
before. -/
private theorem means_link_iff (hsource : field.explicitSource? = none)
    (htype : field.scalar? = some .string) (h : .url ∈ SchemaExpr.textChecks config field) :
    field.scalarSource = .semantic .url .string ∨ field.scalarSource = .semantic .image .string ↔
      ∀ kind ∈ beforeLinks, kind ∉ suggestedBy field.name := by
  have hsuggested : SemanticType.url ∈ suggestedBy field.name := by
    rcases mem_textChecks hsource h with ⟨hemail, -⟩ | ⟨-, hsuggested⟩
    · cases hemail
    · exact hsuggested
  rw [scalarSource_eq_semantic hsource htype (.inr (.inr rfl)),
    scalarSource_eq_semantic hsource htype (.inr (.inl rfl))]
  exact ofName_isLink_iff hsuggested

private theorem link_passes (config : GeneratorConfig)
    (hmeans : field.scalarSource = .semantic .url .string ∨
      field.scalarSource = .semantic .image .string) :
    MockExpr.ofSource config field field.scalarSource ∈ TextCheck.url.mocks := by
  rcases hmeans with hmeans | hmeans <;> rw [hmeans]
  · exact ofSemantic_mem_url config field.name (.inl rfl)
  · exact ofSemantic_mem_url config field.name (.inr rfl)

private theorem suggested_of_failed (hsource : field.explicitSource? = none)
    (htype : field.scalar? = some .string) {check : TextCheck}
    (hcheck : check ∈ SchemaExpr.textChecks config field)
    (hfails : MockExpr.ofSource config field field.scalarSource ∉ check.mocks) :
    check = .url ∧ ∃ kind ∈ beforeLinks, kind ∈ suggestedBy field.name := by
  rcases mem_textChecks hsource hcheck with ⟨rfl, -⟩ | ⟨rfl, -⟩
  · have hmock : MockExpr.ofSemantic config .string field.name .email ∈ TextCheck.email.mocks :=
      List.mem_singleton.2 rfl
    rw [means_email hsource htype hcheck] at hfails
    exact absurd hmock hfails
  · refine ⟨rfl, ?_⟩
    by_contra hnothing
    have hnone : ∀ kind ∈ beforeLinks, kind ∉ suggestedBy field.name :=
      fun kind hkind hsuggested => hnothing ⟨kind, hkind, hsuggested⟩
    exact hfails (link_passes config ((means_link_iff hsource htype hcheck).2 hnone))

/-- The mocks of a text field without a source that the document states, against the checks of its
schema. Where an e-mail address is checked for, the field means one. Where a link is checked for,
the field means a link or an image if and only if its name suggests no kind that comes before them;
and this is the only way in which the mock of a field fails a check on it. -/
theorem check_failed_iff (config : GeneratorConfig) (doc : Document) {field : Field}
    (hkind : field.kind = .scalar) (htype : field.scalar? = some .string)
    (hsource : field.explicitSource? = none) :
    (.email ∈ (SchemaExpr.ofField config doc field).checks →
      field.scalarSource = .semantic .email .string) ∧
    (.url ∈ (SchemaExpr.ofField config doc field).checks →
      (field.scalarSource = .semantic .url .string ∨
          field.scalarSource = .semantic .image .string ↔
        ∀ kind ∈ beforeLinks, kind ∉ suggestedBy field.name)) ∧
    ((∃ check ∈ (SchemaExpr.ofField config doc field).checks,
        MockExpr.ofSource config field field.scalarSource ∉ check.mocks) ↔
      .url ∈ (SchemaExpr.ofField config doc field).checks ∧
        ∃ kind ∈ beforeLinks, kind ∈ suggestedBy field.name) := by
  rw [checks_ofField config doc hkind htype]
  refine ⟨means_email hsource htype, means_link_iff hsource htype, ?_, ?_⟩
  · rintro ⟨check, hcheck, hfails⟩
    obtain ⟨rfl, hsuggested⟩ := suggested_of_failed hsource htype hcheck hfails
    exact ⟨hcheck, hsuggested⟩
  · rintro ⟨hcheck, kind, hkind, hsuggested⟩
    have hmeaning := ofName_mem_beforeLinks hkind hsuggested
    refine ⟨.url, hcheck, ?_⟩
    rw [(scalarSource_eq_semantic hsource htype (.inl hmeaning)).2 rfl]
    exact ofSemantic_notMem_url config field.name hmeaning

/-- A text field of a link to a hotel, in whose name the word for a telephone number comes up. -/
def hotelLink : Field :=
  { Field.bare "hotelUrl" .scalar "String" with isRequired := true }

theorem check_failed_iff_hotel :
    hotelLink.kind = .scalar ∧ hotelLink.scalar? = some .string ∧
      hotelLink.explicitSource? = none ∧
      ∃ check ∈ (SchemaExpr.ofField .standard .empty hotelLink).checks,
        MockExpr.ofSource .standard hotelLink hotelLink.scalarSource ∉ check.mocks := by
  have hkind : hotelLink.kind = .scalar := rfl
  have htype : hotelLink.scalar? = some .string := by decide
  have hsource : hotelLink.explicitSource? = none := by decide +kernel
  exact ⟨hkind, htype, hsource, (check_failed_iff .standard .empty hkind htype hsource).2.2.2
    ⟨by decide +kernel, .phone, by decide, by decide +kernel⟩⟩

/-- With checks switched on, the schema of a text field can check for a link while the field means a
telephone number. -/
theorem link_checked_for_phone :
    GeneratorConfig.standard.useDefaultValidators = true ∧ hotelLink.kind = .scalar ∧
      hotelLink.scalar? = some .string ∧ hotelLink.explicitSource? = none ∧
      SchemaExpr.ofField .standard .empty hotelLink = .string [.url] ∧
      hotelLink.scalarSource = .semantic .phone .string ∧
      ¬(.url ∈ (SchemaExpr.ofField .standard .empty hotelLink).checks →
        hotelLink.scalarSource = .semantic .url .string ∨
          hotelLink.scalarSource = .semantic .image .string) := by
  refine ⟨rfl, rfl, by decide, by decide +kernel, by decide +kernel, by decide +kernel, ?_⟩
  decide +kernel

end Checks

end TypeScript

end SchemaMocks
