import SchemaMocks.Proofs.Directive.Marks
import SchemaMocks.Proofs.Factories.Evaluation

set_option autoImplicit false
set_option relaxedAutoImplicit false

/-!
Code that the documentation supplies. The expressions for values hold code of the documentation in
one place only, where the directive of a field is a call or a literal.
-/

namespace SchemaMocks

/-- Code that the documentation of a field supplies. -/
def Field.suppliedCode (field : Field) : List String :=
  match field.directive? with
  | some (.faker code) | some (.fixed code) => [code]
  | _ => []

namespace TypeScript

section Supplied

variable {config : GeneratorConfig} {field : Field}

private theorem supplied_ofType (config : GeneratorConfig) (scalar : ScalarType) :
    (MockExpr.ofType config scalar).supplied = [] := by
  cases scalar <;> rfl

private theorem supplied_ofSemantic (config : GeneratorConfig) (scalar : ScalarType) (name : String)
    (semantic : SemanticType) : (MockExpr.ofSemantic config scalar name semantic).supplied = [] := by
  cases semantic with
  | unknown => exact supplied_ofType config scalar
  | address | image | date | price | person =>
    unfold MockExpr.ofSemantic
    dsimp only
    split_ifs <;> rfl
  | _ => rfl

private theorem supplied_ofDefault (scalar : Option ScalarType) (d : DefaultMock) :
    (MockExpr.ofDefault scalar d).supplied = [] := by
  cases d with
  | string | number =>
    unfold MockExpr.ofDefault
    dsimp only
    split_ifs <;> rfl
  | _ => rfl

private theorem supplied_ofDirective {d : Directive} (h : field.directive? = some d)
    (scalar : Option ScalarType) :
    (MockExpr.ofDirective scalar d).supplied ⊆ field.suppliedCode := by
  unfold Field.suppliedCode MockExpr.ofDirective
  rw [h]
  cases d with
  | faker | fixed => exact List.Subset.refl _
  | enum options =>
    dsimp only
    split_ifs <;> exact List.nil_subset _
  | _ => exact List.nil_subset _

private theorem supplied_ofListDirective {d : Directive} (h : field.directive? = some d)
    (scalar : Option ScalarType) :
    (MockExpr.ofListDirective scalar d).supplied ⊆ field.suppliedCode := by
  have hsingle := supplied_ofDirective h scalar
  unfold MockExpr.ofListDirective
  cases d with
  | enum options =>
    dsimp only
    split_ifs <;> exact List.nil_subset _
  | fixed value =>
    dsimp only
    split_ifs
    · exact hsingle
    · exact hsingle
  | relationDepth depth => exact List.nil_subset _
  | _ => exact hsingle

private theorem supplied_underCoin (source : MockSource) (value : MockExpr) :
    (MockExpr.underCoin field source value).supplied = value.supplied := by
  unfold MockExpr.underCoin
  split_ifs <;> rfl

theorem directive?_of_scalarSource {d : Directive} (h : field.scalarSource = .directive d) :
    field.directive? = some d := by
  unfold Field.scalarSource at h
  split at h
  · rename_i source hsource
    obtain ⟨found, rfl, hfound⟩ | ⟨_, rfl, -⟩ := Field.explicitSource?_cases hsource
    · rwa [MockSource.directive.inj h] at hfound
    · cases h
  · split at h
    · cases h
    · dsimp only at h
      split_ifs at h

theorem supplied_ofSource {source : MockSource}
    (h : ∀ d, source = .directive d → field.directive? = some d) :
    (MockExpr.ofSource config field source).supplied ⊆ field.suppliedCode := by
  cases source with
  | directive d => exact supplied_ofDirective (h d rfl) _
  | default d => exact (supplied_ofDefault _ d).symm ▸ List.nil_subset _
  | semantic s scalar =>
    exact (supplied_ofSemantic config scalar field.name s).symm ▸ List.nil_subset _
  | typeDefault scalar => exact (supplied_ofType config scalar).symm ▸ List.nil_subset _
  | placeholder => exact List.nil_subset _

theorem supplied_ofScalarField (config : GeneratorConfig) (field : Field) :
    (MockExpr.ofScalarField config field).supplied ⊆ field.suppliedCode := by
  have hdirective (d : Directive) (h : field.scalarSource = .directive d) :
      field.directive? = some d := directive?_of_scalarSource h
  unfold MockExpr.ofScalarField
  rw [supplied_underCoin]
  generalize field.scalarSource = source at hdirective ⊢
  have hsource : (MockExpr.ofSource config field source).supplied ⊆ field.suppliedCode :=
    supplied_ofSource hdirective
  unfold MockExpr.scalarValue
  split_ifs
  · cases source with
    | directive d => exact supplied_ofListDirective (hdirective d rfl) _
    | _ => exact hsource
  · exact hsource

theorem supplied_ofEnumField (doc : Document) (field : Field) :
    (MockExpr.ofEnumField doc field).supplied ⊆ field.suppliedCode := by
  unfold MockExpr.ofEnumField
  split
  · rename_i source hsource
    rw [supplied_underCoin]
    obtain ⟨d, rfl, hdirective⟩ | ⟨d, rfl, -⟩ := Field.explicitSource?_cases hsource
    · unfold MockExpr.enumValue
      dsimp only
      split_ifs
      · exact supplied_ofListDirective hdirective _
      · exact supplied_ofDirective hdirective _
    · exact (supplied_ofDefault none d).symm ▸ List.nil_subset _
  · unfold MockExpr.ofDeclared
    split
    · exact List.nil_subset _
    · exact List.nil_subset _
    · dsimp only
      split_ifs <;> exact List.nil_subset _

end Supplied

end TypeScript

end SchemaMocks
