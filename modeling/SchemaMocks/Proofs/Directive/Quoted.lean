import SchemaMocks.Mock.FieldValue
import SchemaMocks.Proofs.Code.Literals
import SchemaMocks.Proofs.Directive.Canonical
import SchemaMocks.TypeScript.MockExpr

set_option autoImplicit false
set_option relaxedAutoImplicit false

/-!
Quoted literals in the documentation. The factory repeats such a literal, which stands for a text.
The mock value of it is what stands between the quotes, with the escapes as they are written: it is
the same text exactly where no character needs an escape.
-/

namespace SchemaMocks

open TypeScript

section Escapes

variable {c : Char} {cs : List Char}

/-- The characters that are written with an escape. -/
def escaped : List Char :=
  ['\\', '\x27', '\n', '\r', '\t']

private theorem escapeChar_eq_singleton_iff : escapeChar c = [c] ↔ c ∉ escaped := by
  unfold escapeChar escaped
  split_ifs <;> simp_all

private theorem flatMap_escapeChar_eq_iff : cs.flatMap escapeChar = cs ↔ ∀ c ∈ cs, c ∉ escaped := by
  induction cs with
  | nil => simp
  | cons c cs ih =>
    rw [List.flatMap_cons, List.forall_mem_cons, ← escapeChar_eq_singleton_iff, ← ih]
    constructor
    · intro h
      rcases escapeChar_cases c with ⟨d, hc, -⟩ | ⟨hc, -⟩
      · -- an escape makes the text longer, and nothing makes it shorter
        have hlength := congrArg List.length h
        have hrest := length_le_length_flatMap_escapeChar cs
        rw [hc, List.length_append] at hlength
        simp only [List.length_cons, List.length_nil] at hlength
        omega
      · rw [hc] at h
        exact ⟨hc, List.append_cancel_left h⟩
    · rintro ⟨hc, hrest⟩
      rw [hc, hrest]
      rfl

end Escapes

namespace MockValue

private theorem ofLiteral_quote (s : String) :
    ofLiteral (quote s) = .text (String.ofList (s.toList.flatMap escapeChar)) := by
  have htrim : Text.trim (quote s).toList = (quote s).toList := by
    rw [toList_quote]
    exact Text.trim_of_visible_ends (by decide) (by decide) _
  have hbody : unquoted? (quote s).toList = some (s.toList.flatMap escapeChar) := by
    rw [toList_quote, quoteChars, unquoted?, if_pos ⟨.inl rfl, by simp⟩,
      List.dropLast_concat]
  unfold ofLiteral
  simp only [htrim, hbody]

private theorem ofLiteral_quote_eq_iff {s : String} :
    ofLiteral (quote s) = .text s ↔ ∀ c ∈ s.toList, c ∉ escaped := by
  rw [ofLiteral_quote, text.injEq, ← flatMap_escapeChar_eq_iff]
  rw [← String.toList_inj, String.toList_ofList]

end MockValue

private theorem isLine_quote (s : String) : Text.IsLine (quote s).toList := by
  rw [toList_quote]
  refine ⟨List.cons_ne_nil _ _, Text.trim_of_visible_ends (by decide) (by decide) _, ?_⟩
  intro hbreak
  rcases List.mem_append.1 (List.mem_of_ne_of_mem (by decide) hbreak) with hbody | hclosing
  · exact ((isQuoteBody_flatMap s.toList).no_line_break _ hbody).1 rfl
  · exact absurd (List.mem_singleton.1 hclosing) (by decide)

private theorem Field.explicitSource?_of_quote {field : Field} {s : String}
    (hdoc : field.documentation = some ("@mock " ++ quote s))
    (hplain : Text.contains (quote s) "faker." = false) :
    field.explicitSource? = some (.directive (.fixed (quote s))) := by
  have hvalid : (Directive.CanonicalLine.bare (quote s)).Valid := isLine_quote s
  obtain ⟨hline, hmeans⟩ := Directive.CanonicalLine.isRead_bare hvalid
  have hcall : Text.startsWith (quote s) "faker." = false := by
    rw [Text.startsWith, toList_quote]
    rfl
  simp only [Directive.CanonicalLine.Means, hcall, hplain, Bool.false_eq_true, if_false] at hmeans
  have htext : (Directive.CanonicalLine.bare (quote s)).text = "@mock " ++ quote s := rfl
  rw [htext] at hline hmeans
  generalize "@mock " ++ quote s = line at hdoc hline hmeans
  have hlast : field.documentation = some ("\n".intercalate ([] ++ ["" ++ line ++ ""])) := by
    simp [hdoc]
  have hdirectives := directives_of_last hlast (by simp) (by simp) (by simp) hline
  rw [hmeans] at hdirectives
  refine explicitSource?_of_fixed (directive?_of_single hdirectives fun directive h => ?_)
  cases h
  rfl

/-- The literal of a text stands for the text. Its mock value is the text with the escapes, so it is
the text itself exactly where no character of it is escaped. In the documentation of a field the
literal is repeated in the factory, and the mock value is drawn without a change of state. -/
theorem Field.quoted_mock_iff (s : String) :
    readLiteral? (quote s).toList = some (codeUnits s.toList, []) ∧
      MockValue.ofLiteral (quote s) = .text (String.ofList (s.toList.flatMap escapeChar)) ∧
      (MockValue.ofLiteral (quote s) = .text s ↔ ∀ c ∈ s.toList, c ∉ escaped) ∧
      ∀ field : Field, field.documentation = some ("@mock " ++ quote s) →
        Text.contains (quote s) "faker." = false →
        field.explicitSource? = some (.directive (.fixed (quote s))) ∧
          (∀ config, (MockExpr.ofSource config field (.directive (.fixed (quote s)))).render =
            quote s) ∧
          ∀ (profile : MockProfile) (model : Model) (state : ValueState),
            ((MockSource.directive (.fixed (quote s))).value profile model field).run state =
              (.ok (MockValue.ofLiteral (quote s)), state) := by
  refine ⟨?_, MockValue.ofLiteral_quote s, MockValue.ofLiteral_quote_eq_iff, ?_⟩
  · rw [← List.append_nil (quote s).toList]
    exact readLiteral?_quote s []
  · intro field hdoc hplain
    exact ⟨explicitSource?_of_quote hdoc hplain, fun _ => rfl, fun _ _ _ => rfl⟩

/-- A name with an umlaut and a double quote, neither of which is escaped. -/
theorem Field.quoted_mock_iff_umlaut :
    let field := { Field.bare "name" .scalar "String" with
      documentation := some "@mock \x27M\u00fcller \"jr\"\x27" }
    field.documentation = some ("@mock " ++ quote "M\u00fcller \"jr\"") ∧
      Text.contains (quote "M\u00fcller \"jr\"") "faker." = false ∧
      field.explicitSource? = some (.directive (.fixed (quote "M\u00fcller \"jr\""))) ∧
      MockValue.ofLiteral (quote "M\u00fcller \"jr\"") = .text "M\u00fcller \"jr\"" := by
  intro field
  have hdoc : field.documentation = some ("@mock " ++ quote "M\u00fcller \"jr\"") := by decide
  have hplain : Text.contains (quote "M\u00fcller \"jr\"") "faker." = false := by decide +kernel
  obtain ⟨-, -, hkeeps, hfield⟩ := quoted_mock_iff "M\u00fcller \"jr\""
  exact ⟨hdoc, hplain, (hfield field hdoc hplain).1, hkeeps.2 (List.forall_iff_forall_mem.1 (by decide))⟩

/-- The apostrophe of a text is escaped in its literal, which stands for the text in the factory, and
the backslash stays in the mock value. -/
theorem Field.escape_kept_in_mock :
    let field := { Field.bare "note" .scalar "String" with
      documentation := some "@mock \x27it\\\x27s\x27" }
    field.explicitSource? = some (.directive (.fixed (quote "it\x27s"))) ∧
      readLiteral? (quote "it\x27s").toList = some (codeUnits "it\x27s".toList, []) ∧
      MockValue.ofLiteral (quote "it\x27s") = .text "it\\\x27s" ∧
      MockValue.ofLiteral (quote "it\x27s") ≠ .text "it\x27s" := by
  refine ⟨by decide +kernel, by decide, ?_, ?_⟩
  · rw [MockValue.ofLiteral_quote]
    rfl
  · rw [Ne, MockValue.ofLiteral_quote_eq_iff]
    exact fun hplain => hplain '\x27' (by decide) (by decide)

end SchemaMocks
