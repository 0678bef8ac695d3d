import SchemaMocks.Proofs.Binary64.Numerals
import SchemaMocks.Proofs.Sampling.Lists

set_option autoImplicit false
set_option relaxedAutoImplicit false

/-!
Literals of the documentation that become null. Besides the keywords these are the numerals without
a finite number, for which JSON has no form: the words for infinity and for an undefined value, in
any case, and the decimals that are too large. Such literals were to be texts or numbers.
-/

namespace SchemaMocks

open Binary64 (IsNonFinite ofNumeral?_not_finite_iff)

private theorem Json.object_of_read? {rest : List Char} {j : Json}
    (h : Json.read? (String.ofList ('\x7b' :: rest)) = some j) :
    ∃ entries, j = .object entries := by
  obtain ⟨fuel, after, hread⟩ := Json.readValue_of_read? h
  have hskip : Json.skipSpace ('\x7b' :: rest) = '\x7b' :: rest := rfl
  cases fuel with
  | zero => cases hread
  | succ fuel =>
    rw [Json.readValue, hskip] at hread
    simp only [nestingLimit] at hread
    split at hread
    · exact ⟨[], by cases hread; rfl⟩
    · obtain ⟨⟨members, _⟩, -, hobject⟩ := Option.map_eq_some_iff.1 hread
      exact ⟨Entries.ofList members, by cases hobject; rfl⟩

namespace MockValue

variable {cs : List Char} {value : MockValue}

private theorem structured?_not_null (h : structured? cs = some value) : value.toJson ≠ .null := by
  unfold structured? at h
  split at h
  · obtain ⟨j, hj, rfl⟩ := Option.map_eq_some_iff.1 h
    obtain ⟨items, rfl⟩ := Json.array_of_read? hj
    exact nofun
  · obtain ⟨j, hj, rfl⟩ := Option.map_eq_some_iff.1 h
    obtain ⟨entries, rfl⟩ := Json.object_of_read? hj
    exact nofun
  · cases h

private theorem numeral?_null_iff : (∃ value, numeral? cs = some value ∧ value.toJson = .null) ↔
    IsNonFinite cs := by
  unfold numeral?
  split
  · rename_i n hn
    refine iff_of_false ?_ (Binary64.not_isNonFinite_of_int hn)
    rintro ⟨value, hvalue, hnull⟩
    cases hvalue
    cases hnull
  · rw [← ofNumeral?_not_finite_iff]
    constructor
    · rintro ⟨value, hvalue, hnull⟩
      obtain ⟨x, hx, rfl⟩ := Option.map_eq_some_iff.1 hvalue
      refine ⟨x, hx, ?_⟩
      cases x with
      | finite x => cases hnull
      | infinite | nan => rfl
    · rintro ⟨x, hx, hfinite⟩
      refine ⟨.float x, by rw [hx]; rfl, ?_⟩
      cases x with
      | finite x => cases hfinite
      | infinite | nan => rfl

private theorem not_isNonFinite_of_switch (h : String.ofList cs = "true" ∨ String.ofList cs = "false") :
    ¬IsNonFinite cs := by
  intro hbeyond
  have hcs : cs = "true".toList ∨ cs = "false".toList := by
    rcases h with h | h <;> rw [← h, String.toList_ofList] <;> simp
  rcases hcs with rfl | rfl <;> exact absurd hbeyond.opens (by decide)

private theorem keyword?_null_iff (h : keyword? (String.ofList cs) = some value) :
    value.toJson = .null ↔
      String.ofList cs = "null" ∨ String.ofList cs = "undefined" ∨ IsNonFinite cs := by
  unfold keyword? at h
  split at h
  · rename_i hword
    cases h
    exact iff_of_true rfl (hword.imp_right Or.inl)
  · rename_i hword
    have hswitch : (String.ofList cs = "true" ∨ String.ofList cs = "false") ∧
        value.toJson ≠ .null := by
      split at h
      · rename_i htrue
        cases h
        exact ⟨.inl htrue, nofun⟩
      · split at h
        · rename_i hfalse
          cases h
          exact ⟨.inr hfalse, nofun⟩
        · cases h
    refine iff_of_false hswitch.2 ?_
    rw [← or_assoc]
    exact not_or.2 ⟨hword, not_isNonFinite_of_switch hswitch.1⟩

private theorem plain_of_unquoted? {body : List Char} (h : unquoted? cs = some body) :
    keyword? (String.ofList cs) = none ∧ ¬IsNonFinite cs := by
  cases cs with
  | nil => cases h
  | cons q rest =>
    unfold unquoted? at h
    rw [Option.ite_none_right_eq_some] at h
    rcases h.1.1 with rfl | rfl | rfl
    all_goals exact ⟨keyword?_cons (by decide), fun hbeyond => absurd hbeyond.opens (by decide)⟩

/-- A literal becomes null exactly if it is one of the two keywords or a numeral for which there is
no finite number. -/
theorem ofLiteral_null_iff (raw : String) : (ofLiteral raw).toJson = .null ↔
    Text.trimmed raw = "null" ∨ Text.trimmed raw = "undefined" ∨
      IsNonFinite (Text.trim raw.toList) := by
  unfold ofLiteral Text.trimmed
  dsimp only
  generalize Text.trim raw.toList = cs
  have hkeyword (h : keyword? (String.ofList cs) = none) :
      String.ofList cs ≠ "null" ∧ String.ofList cs ≠ "undefined" := by
    constructor <;> intro hword <;> rw [hword] at h <;> cases h
  cases hquoted : unquoted? cs with
  | some body =>
    obtain ⟨hnone, hnumeral⟩ := plain_of_unquoted? hquoted
    simp [hkeyword hnone, hnumeral, toJson]
  | none =>
    cases hword : keyword? (String.ofList cs) with
    | some value => exact keyword?_null_iff hword
    | none =>
      rw [← numeral?_null_iff]
      cases hnumeral : numeral? cs with
      | some value => simp [hkeyword hword]
      | none =>
        cases hstructured : structured? cs with
        | some value => simp [hkeyword hword, structured?_not_null hstructured]
        | none => simp [hkeyword hword, toJson]

theorem ofLiteral_null_nan : Text.trimmed "NaN" ≠ "null" ∧ Text.trimmed "NaN" ≠ "undefined" ∧
    (ofLiteral "NaN").toJson = .null :=
  ⟨by decide, by decide, rfl⟩

end MockValue

end SchemaMocks
