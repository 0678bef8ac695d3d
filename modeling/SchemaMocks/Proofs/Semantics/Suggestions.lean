import Mathlib.Data.List.Nodup
import SchemaMocks.Pattern.PropertyTable
import SchemaMocks.Proofs.Pattern.Words
import SchemaMocks.Semantics

set_option autoImplicit false
set_option relaxedAutoImplicit false

/-!
What names suggest. A name suggests a kind of contents if it mentions a keyword of the kind. The
keywords of a kind make up a pattern, an alternation without regard to case, and a name suggests the
kind if the pattern matches a part of the name. Names that are alike suggest the same.
-/

namespace SchemaMocks

namespace SemanticType

variable {name other word : String} {kind : SemanticType} {words : List String}

private theorem occurs_iff : occurs (name.toList.map Text.fold) word = true ↔
    Text.Mentions name.toList word.toList := by
  rw [occurs, Text.occursIn_iff, Text.mentions_iff]

private theorem keywords_nodup : (keywords.map (·.1)).Nodup := by
  decide

private theorem mem_suggestedBy_iff (hrow : (kind, words) ∈ keywords) :
    kind ∈ suggestedBy name ↔ ∃ word ∈ words, Text.Mentions name.toList word.toList := by
  have hany : words.any (occurs (name.toList.map Text.fold)) = true ↔
      ∃ word ∈ words, Text.Mentions name.toList word.toList := by
    simp only [List.any_eq_true, occurs_iff]
  rw [← hany, suggestedBy, List.mem_map]
  constructor
  · rintro ⟨⟨_, words'⟩, hmem, rfl⟩
    obtain ⟨hrow', hwords'⟩ := List.mem_filter.1 hmem
    -- the kind has one row only
    obtain ⟨-, rfl⟩ := Prod.mk.inj (List.inj_on_of_nodup_map keywords_nodup hrow' hrow rfl)
    exact hwords'
  · intro hwords
    exact ⟨(kind, words), List.mem_filter.2 ⟨hrow, hwords⟩, rfl⟩

private theorem suggestedBy_congr (h : Text.FoldAlike other.toList name.toList) :
    suggestedBy other = suggestedBy name := by
  unfold suggestedBy
  rw [Text.foldAlike_iff.1 h]

private theorem keywords_letters (hrow : (kind, words) ∈ keywords) :
    words ≠ [] ∧ ∀ word ∈ words, ∀ c ∈ word.toList, c.isAlpha = true := by
  have hall : (keywords.all fun row => !row.2.isEmpty &&
      row.2.all fun word => word.toList.all Char.isAlpha) = true := by
    decide +kernel
  simpa using List.all_eq_true.1 hall (kind, words) hrow

private theorem keywords_pattern (hrow : (kind, words) ∈ keywords) (table : Pattern.CharacterTable)
    (name : String) :
    ∃ p, Pattern.ofText? table ("(?i)" ++ Text.joined "|" words) = some p ∧
      (kind ∈ suggestedBy name ↔ ∃ part, part <:+: name.toList ∧ p.Matches part) := by
  obtain ⟨hne, hletters⟩ := keywords_letters hrow
  obtain ⟨p, hp, hmatches⟩ := Pattern.ofText?_words table hne hletters
  refine ⟨p, hp, ?_⟩
  rw [mem_suggestedBy_iff hrow]
  constructor
  · rintro ⟨word, hword, part, hpart, halike⟩
    exact ⟨part, hpart, (hmatches part).2 ⟨word, hword, halike⟩⟩
  · rintro ⟨part, hpart, hmatch⟩
    obtain ⟨word, hword, halike⟩ := (hmatches part).1 hmatch
    exact ⟨word, hword, part, hpart, halike⟩

end SemanticType

namespace FieldAnalysis

/-- The analysis of a name lists, in the order of the table, the kinds with a keyword that the name
mentions, those whose pattern matches a part of the name; the first of them is the meaning of the
name; and the analysis is the same for all names that are alike, in ASCII case or under folding. -/
theorem ofName_suggests (table : Pattern.CharacterTable) (name : String) :
    (ofName name).fieldName = name ∧
      (ofName name).suggested.Sublist (SemanticType.keywords.map (·.1)) ∧
      (ofName name).suggested.Nodup ∧
      (∀ kind words, (kind, words) ∈ SemanticType.keywords →
        (kind ∈ (ofName name).suggested ↔
          ∃ word ∈ words, Text.Mentions name.toList word.toList) ∧
        ∃ p, Pattern.ofText? table ("(?i)" ++ Text.joined "|" words) = some p ∧
          (kind ∈ (ofName name).suggested ↔ ∃ part, part <:+: name.toList ∧ p.Matches part)) ∧
      (ofName name).semantic = (ofName name).suggested.head?.getD .unknown ∧
      SemanticType.ofName name = (ofName name).semantic ∧
      ∀ other, Text.FoldAlike other.toList name.toList ∨
          Text.asciiLowered other = Text.asciiLowered name →
        ofName other = { ofName name with fieldName := other } := by
  have hordered := SemanticType.suggestedBy_sublist name
  refine ⟨rfl, hordered, hordered.nodup SemanticType.keywords_nodup, fun kind words hrow =>
    ⟨SemanticType.mem_suggestedBy_iff hrow, SemanticType.keywords_pattern hrow table name⟩,
    List.headD_eq_head?_getD, SemanticType.ofName_eq_headD name, fun other hother => ?_⟩
  have halike : Text.FoldAlike other.toList name.toList :=
    hother.elim id Text.foldAlike_of_asciiLowered
  simp only [ofName, SemanticType.suggestedBy_congr halike]

/-- The Kelvin sign is alike the letter K. -/
theorem ofName_suggests_kelvin :
    (ofName "Lin\u212AId").suggested = [.url] ∧
      (∃ word ∈ ["url", "website", "link", "homepage"],
        Text.Mentions "Lin\u212AId".toList word.toList) ∧
      (∃ p, Pattern.ofText? .standard "(?i)url|website|link|homepage" = some p ∧
        ∃ part, part <:+: "Lin\u212AId".toList ∧ p.Matches part) ∧
      ofName "LINKid" = { ofName "Lin\u212AId" with fieldName := "LINKid" } := by
  obtain ⟨-, -, -, hkinds, -, -, hother⟩ := ofName_suggests .standard "Lin\u212AId"
  have hlist : (ofName "Lin\u212AId").suggested = [.url] := by decide +kernel
  have hurl : SemanticType.url ∈ (ofName "Lin\u212AId").suggested := by rw [hlist]; decide
  have hwords : Text.joined "|" ["url", "website", "link", "homepage"] =
      "url|website|link|homepage" := by decide
  obtain ⟨hmentions, p, hp, hpart⟩ :=
    hkinds .url ["url", "website", "link", "homepage"] (by decide)
  rw [hwords] at hp
  exact ⟨hlist, hmentions.1 hurl, ⟨p, hp, hpart.1 hurl⟩,
    hother "LINKid" (.inl (Text.foldAlike_iff.2 (by decide +kernel)))⟩

end FieldAnalysis

end SchemaMocks
