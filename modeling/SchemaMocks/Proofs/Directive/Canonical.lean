import Mathlib.Data.List.TakeWhile
import SchemaMocks.Proofs.Binary64.Integers
import SchemaMocks.Proofs.Config.Stated
import SchemaMocks.Proofs.Directive.Marks

set_option autoImplicit false
set_option relaxedAutoImplicit false

/-!
Canonical lines of documentation. What is written in the plain way is read back: depths, ranges of
integers, options with and without quotes, calls and literals, with any blanks around the line and
any lines without the mark before it.
-/

namespace SchemaMocks

namespace Directive

open Text

/-- What stands around an option. -/
inductive Wrapping where
  | plain
  | singleQuotes
  | doubleQuotes
  deriving DecidableEq

/-- An option with what stands around it. -/
def wrapped : Wrapping × String → String
  | (.plain, text) => text
  | (.singleQuotes, text) => "\x27" ++ text ++ "\x27"
  | (.doubleQuotes, text) => "\"" ++ text ++ "\""

/-- A text that can stand among options: a line of its own without commas, quotes and marks. -/
structure IsOption (text : String) : Prop extends IsLine text.toList where
  comma : ',' ∉ text.toList
  quote : text.toList.any isQuote = false
  marked : contains text "@mock" = false

/-- A line of documentation that is written in the plain way. -/
inductive CanonicalLine where
  | relationDepth (depth : UInt32)
  | range (low high : Int)
  | enum (options : List (Wrapping × String))
  | bare (value : String)

namespace CanonicalLine

def text : CanonicalLine → String
  | relationDepth depth => "@mock.relationDepth(" ++ toString depth ++ ")"
  | range low high => "@mock.range(" ++ (toString low ++ ", " ++ toString high) ++ ")"
  | enum options =>
    "@mock.enum(" ++ ", ".intercalate (options.map wrapped) ++ ")"
  | bare value => "@mock " ++ value

/-- The integers of a range are in order and have 53 bits, or are the next power of two. -/
def Valid : CanonicalLine → Prop
  | relationDepth _ => True
  | range low high =>
    low ≤ high ∧ low.natAbs ≤ 9007199254740992 ∧ high.natAbs ≤ 9007199254740992
  | enum options => options ≠ [] ∧ ∀ option ∈ options, IsOption option.2
  | bare value => IsLine value.toList

/-- What a line is to be read as. -/
def Means : CanonicalLine → Option Directive → Prop
  | relationDepth depth, found => found = some (.relationDepth depth)
  | range low high, found => ∃ min max, found = some (.range min max) ∧
      min.units = low * Finite64.unitsPerOne ∧ max.units = high * Finite64.unitsPerOne
  | enum options, found => found = some (.enum (options.map Prod.snd))
  | bare value, found =>
    if startsWith value "faker." then found = some (.faker value)
    else if contains value "faker." then found = none
    else found = some (.fixed value)

end CanonicalLine

section Numbers

variable {digits rest : List Char} {c : Char}

private theorem isDigit_of_char_isDigit (h : c.isDigit = true) : isDigit c = true := by
  rw [Char.isDigit_iff_toNat] at h
  have hzero : '0'.toNat = 48 := rfl
  have hnine : '9'.toNat = 57 := rfl
  refine List.any_eq_true.2 ⟨(0x30, 0x39), List.mem_cons_self, ?_⟩
  simp only [Bool.and_eq_true, decide_eq_true_eq]
  omega

private theorem digitRun?_append (h : Json.IsDigits digits) (hc : isDigit c = false) :
    digitRun? (digits ++ c :: rest) = some (digits, c :: rest) := by
  have hdigits : ∀ d ∈ digits, isDigit d = true := fun d hd => isDigit_of_char_isDigit (h.2 d hd)
  have hne : digits.isEmpty = false := by simpa using h.1
  unfold digitRun?
  rw [List.span_eq_takeWhile_dropWhile, List.takeWhile_append_of_pos hdigits,
    List.dropWhile_append_of_pos hdigits, List.takeWhile_cons_of_neg (by simp [hc]),
    List.dropWhile_cons_of_neg (by simp [hc])]
  simp [hne]

private theorem unsigned?_append (h : Json.IsDigits digits) (hc : isDigit c = false)
    (hpoint : c ≠ '.') :
    unsigned? (digits ++ c :: rest) = some (digits, c :: rest) := by
  unfold unsigned?
  rw [digitRun?_append h hc]
  simp only [Option.bind_eq_bind, Option.bind_some]
  split
  · rename_i heq
    exact absurd (List.cons.inj heq).1 hpoint
  · rfl

private theorem isBlank_of_isDigit (h : c.isDigit = true) : isBlank c = false := by
  rw [Char.isDigit_iff_toNat] at h
  have hzero : '0'.toNat = 48 := rfl
  have hnine : '9'.toNat = 57 := rfl
  simp only [isBlank, Bool.or_eq_false_iff, Bool.and_eq_false_iff, decide_eq_false_iff_not,
    beq_eq_false_iff_ne]
  omega

private theorem trimFront_digits (h : Json.IsDigits digits) (rest : List Char) :
    trimFront (digits ++ rest) = digits ++ rest := by
  cases digits with
  | nil => exact absurd rfl h.1
  | cons first more =>
    exact trimFront_cons_of_visible (isBlank_of_isDigit (h.2 first List.mem_cons_self))

private theorem number?_int (n : Int) (hc : isDigit c = false) (hpoint : c ≠ '.')
    (hvisible : isBlank c = false) :
    number? ((toString n).toList ++ c :: rest) = some ((toString n).toList, c :: rest) := by
  have hrest : trimFront (c :: rest) = c :: rest := trimFront_cons_of_visible hvisible
  cases n with
  | ofNat m =>
    have hdigits := Json.isDigits_toDigits m
    have hread : unsigned? (Nat.toDigits 10 m ++ c :: rest) =
        some (Nat.toDigits 10 m, c :: rest) := unsigned?_append hdigits hc hpoint
    rw [show toString (Int.ofNat m) = toString m from rfl, Json.toList_toString]
    unfold number?
    rw [trimFront_digits hdigits]
    split
    · rename_i tail heq
      cases hfirst : Nat.toDigits 10 m with
      | nil => exact absurd hfirst hdigits.1
      | cons first more =>
        rw [hfirst, List.cons_append] at heq
        have hdigit := hdigits.2 first (hfirst ▸ List.mem_cons_self)
        rw [(List.cons.inj heq).1] at hdigit
        cases hdigit
    · simp only [hread, Option.bind_eq_bind, Option.bind_some, hrest]
  | negSucc m =>
    have hdigits := Json.isDigits_toDigits (m + 1)
    rw [show toString (Int.negSucc m) = "-" ++ toString (m + 1) from rfl, String.toList_append,
      Json.toList_toString]
    have hminus : trimFront ("-".toList ++ Nat.toDigits 10 (m + 1) ++ c :: rest) =
        '-' :: (Nat.toDigits 10 (m + 1) ++ c :: rest) := rfl
    unfold number?
    simp only [hminus, unsigned?_append hdigits hc hpoint, Option.map_some, Option.bind_eq_bind,
      Option.bind_some, hrest]
    rfl

private theorem number?_cons_of_blank (hc : isBlank c = true) :
    number? (c :: rest) = number? rest := by
  unfold number?
  rw [trimFront_cons_of_blank hc]

end Numbers

section Ranges

variable {low high : Int}

private theorem rangeForm_written (low high : Int) :
    rangeForm (written "range" (toString low ++ ", " ++ toString high).toList) =
      some (rangeOf? (toString low).toList (toString high).toList) := by
  have hbody : (toString low ++ ", " ++ toString high).toList ++ [')'] =
      (toString low).toList ++ ',' :: (' ' :: ((toString high).toList ++ [')'])) := by simp
  have hlow : number? ((toString low).toList ++ ',' :: (' ' :: ((toString high).toList ++ [')']))) =
      some ((toString low).toList, ',' :: (' ' :: ((toString high).toList ++ [')']))) :=
    number?_int low rfl (by decide) rfl
  have hhigh : number? (' ' :: ((toString high).toList ++ [')'])) =
      some ((toString high).toList, [')']) := by
    rw [number?_cons_of_blank rfl]
    exact number?_int high rfl (by decide) rfl
  unfold rangeForm
  rw [opened?_self, hbody]
  simp only [Option.bind_eq_bind, Option.bind_some, hlow, hhigh]

private theorem rangeOf?_int (hle : low ≤ high) (hlow : low.natAbs ≤ 9007199254740992)
    (hhigh : high.natAbs ≤ 9007199254740992) :
    ∃ min max, rangeOf? (toString low).toList (toString high).toList = some (.range min max) ∧
      min.units = low * Finite64.unitsPerOne ∧ max.units = high * Finite64.unitsPerOne := by
  obtain ⟨min, hmin, hminunits⟩ := Binary64.ofNumeral?_int hlow
  obtain ⟨max, hmax, hmaxunits⟩ := Binary64.ofNumeral?_int hhigh
  have horder : min.units ≤ max.units := by
    rw [hminunits, hmaxunits]
    exact Int.mul_le_mul_of_nonneg_right hle (Int.natCast_nonneg _)
  refine ⟨min, max, ?_, hminunits, hmaxunits⟩
  unfold rangeOf?
  simp only [hmin, hmax, if_pos horder]

end Ranges

private theorem depthForm_written (depth : UInt32) :
    depthForm (written "relationDepth" (toString depth).toList) =
      some (some (relationDepth depth)) := by
  have hdigits := Json.isDigits_toDigits depth.toNat
  have htext : (toString depth).toList = Nat.toDigits 10 depth.toNat := Json.toList_toString _
  have hvalue : natBelow? 4294967296 (Nat.toDigits 10 depth.toNat) = some depth.toNat := by
    rw [← htext, natBelow?_eq_some_iff]
    exact ⟨⟨_, hdigits.1, hdigits.2, .inl htext, Json.digitsValue_toDigits _⟩, depth.toNat_lt⟩
  have hopened := opened?_self "relationDepth" (Nat.toDigits 10 depth.toNat)
  unfold depthForm
  rw [htext, hopened]
  simp only [Option.bind_eq_bind, Option.bind_some, trimFront_digits hdigits,
    digitRun?_append hdigits (c := ')') rfl]
  rw [trimFront_cons_of_visible rfl]
  simp only [hvalue, Option.map_some, UInt32.ofNat_toNat]

section Options

variable {option : Wrapping × String} {options : List (Wrapping × String)} {body : List Char}

private theorem beforeLastParen?_concat (cs : List Char) :
    beforeLastParen? (cs ++ [')']) = some cs := by
  simp [beforeLastParen?]

private theorem enumForm_written (hne : body ≠ []) (hbreak : '\n' ∉ body) :
    enumForm (written "enum" body) = some (some (enum (optionsOf body))) := by
  have hline : (body ++ [')']).takeWhile (· != '\n') = body ++ [')'] := by
    rw [List.takeWhile_eq_self_iff]
    intro c hc
    rw [bne_iff_ne]
    rintro rfl
    rcases List.mem_append.1 hc with hc | hc
    · exact hbreak hc
    · cases List.mem_singleton.1 hc
  unfold enumForm
  rw [opened?_self]
  simp only [Option.bind_eq_bind, Option.bind_some, hline, beforeLastParen?_concat]
  rw [if_neg (by simpa using hne)]

private theorem map_trim_pieces_joined {texts : List String} (h : ∀ text ∈ texts, ',' ∉ text.toList)
    (hne : texts ≠ []) :
    (pieces ',' (", ".intercalate texts).toList).map trim =
      texts.map fun text => trim text.toList := by
  induction texts with
  | nil => exact absurd rfl hne
  | cons text texts ih =>
    obtain ⟨htext, htexts⟩ := List.forall_mem_cons.1 h
    cases texts with
    | nil => simp [pieces_of_notMem htext]
    | cons next texts =>
      have hjoined : (", ".intercalate (text :: next :: texts)).toList =
          text.toList ++ ',' :: ' ' :: (", ".intercalate (next :: texts)).toList := by simp
      rw [hjoined, pieces_append htext, List.map_cons,
        map_trim_pieces_cons_of_blank rfl (by decide), ih htexts (List.cons_ne_nil _ _)]
      rfl

private theorem infix_of_joined {needle : List Char} {texts : List String} (hcomma : ',' ∉ needle)
    (hblank : ' ' ∉ needle) (hne : needle ≠ [])
    (h : needle <:+: (", ".intercalate texts).toList) :
    ∃ text ∈ texts, needle <:+: text.toList := by
  induction texts with
  | nil => exact absurd (List.infix_nil.1 h) hne
  | cons text texts ih =>
    cases texts with
    | nil => exact ⟨text, List.mem_singleton_self text, by simpa using h⟩
    | cons next texts =>
      have hjoined : (", ".intercalate (text :: next :: texts)).toList =
          text.toList ++ ',' :: ' ' :: (", ".intercalate (next :: texts)).toList := by simp
      rw [hjoined] at h
      rcases infix_of_between hcomma h with htext | hrest
      · exact ⟨text, List.mem_cons_self, htext⟩
      · obtain ⟨found, hfound, hneedle⟩ := ih (infix_of_behind hblank hne hrest)
        exact ⟨found, List.mem_cons_of_mem text hfound, hneedle⟩

private theorem infix_of_wrapped {needle : List Char} (hquote : needle.any isQuote = false)
    (hne : needle ≠ []) (h : needle <:+: (wrapped option).toList) :
    needle <:+: option.2.toList := by
  have hunquoted : ∀ q, isQuote q = true → needle <:+: q :: (option.2.toList ++ [q]) →
      needle <:+: option.2.toList := by
    intro q hq hfound
    have hnone : q ∉ needle := by
      intro hmem
      rw [List.any_eq_false] at hquote
      exact hquote q hmem hq
    exact infix_of_enclosed hnone hne hfound
  obtain ⟨wrapping, text⟩ := option
  cases wrapping with
  | plain => exact h
  | singleQuotes => exact hunquoted '\x27' rfl (by simpa [wrapped] using h)
  | doubleQuotes => exact hunquoted '\"' rfl (by simpa [wrapped] using h)

private theorem unquoted_wrapped (h : IsOption option.2) :
    (trim (wrapped option).toList).filter (fun c => !isQuote c) = option.2.toList := by
  have hplain : option.2.toList.filter (fun c => !isQuote c) = option.2.toList := by
    rw [List.filter_eq_self]
    intro c hc
    simpa using List.any_eq_false.1 h.quote c hc
  have hquoted : ∀ q, isQuote q = true → isBlank q = false →
      (trim (q :: (option.2.toList ++ [q]))).filter (fun c => !isQuote c) = option.2.toList := by
    intro q hq hvisible
    rw [trim_of_visible_ends hvisible hvisible]
    simp [hq, hplain]
  obtain ⟨wrapping, text⟩ := option
  cases wrapping with
  | plain =>
    rw [show (wrapped (.plain, text)).toList = text.toList from rfl, h.trimmed]
    exact hplain
  | singleQuotes => simpa [wrapped] using hquoted '\x27' rfl rfl
  | doubleQuotes => simpa [wrapped] using hquoted '\"' rfl rfl

private theorem optionsOf_joined (hne : options ≠ [])
    (hoptions : ∀ option ∈ options, IsOption option.2) :
    optionsOf (", ".intercalate (options.map wrapped)).toList = options.map Prod.snd := by
  have hcomma : ∀ text ∈ options.map wrapped, ',' ∉ text.toList := by
    intro text htext hcomma
    obtain ⟨option, hoption, rfl⟩ := List.mem_map.1 htext
    have hinside := infix_of_wrapped rfl (List.cons_ne_nil _ _)
      ((List.singleton_infix_iff _ _).2 hcomma)
    exact (hoptions option hoption).comma ((List.singleton_infix_iff _ _).1 hinside)
  have hpieces := map_trim_pieces_joined hcomma (by simpa using hne)
  have htexts : (pieces ',' (", ".intercalate (options.map wrapped)).toList).map
      (fun piece => (trim piece).filter fun c => !isQuote c) =
        options.map fun option => option.2.toList := by
    calc (pieces ',' (", ".intercalate (options.map wrapped)).toList).map
          (fun piece => (trim piece).filter fun c => !isQuote c)
        = ((pieces ',' (", ".intercalate (options.map wrapped)).toList).map trim).map
            (List.filter fun c => !isQuote c) := by rw [List.map_map]; rfl
      _ = options.map fun option => (trim (wrapped option).toList).filter fun c => !isQuote c := by
        rw [hpieces, List.map_map, List.map_map]
        rfl
      _ = options.map fun option => option.2.toList :=
        List.map_congr_left fun option hoption => unquoted_wrapped (hoptions option hoption)
  have hvisible : (options.map fun option => option.2.toList).filter (fun cs => !cs.isEmpty) =
      options.map fun option => option.2.toList := by
    rw [List.filter_eq_self]
    intro cs hcs
    obtain ⟨option, hoption, rfl⟩ := List.mem_map.1 hcs
    simpa using (hoptions option hoption).ne_nil
  unfold optionsOf
  simp only [htexts, hvisible, List.map_map]
  exact List.map_congr_left fun option _ => String.ofList_toList

end Options

namespace CanonicalLine

def IsRead (line : CanonicalLine) : Prop :=
  IsLine line.text.toList ∧ line.Means (ofLine? line.text)

private theorem toList_written {front name : String} (body : String)
    (hfront : front.toList = ("@mock." ++ name).toList ++ ['(']) :
    (front ++ body ++ ")").toList = written name body.toList := by
  rw [String.toList_append, String.toList_append, hfront, List.append_assoc, List.append_assoc]
  rfl

private theorem read_written {name text : String} {form : List Char → Option Finding}
    {body : List Char}
    {found : Option Directive} (hform : (name, form) ∈ forms)
    (htext : text.toList = written name body) (hfound : form (written name body) = some found)
    (hbreak : '\n' ∉ body) (hmark : ¬mark <:+: body) :
    IsLine text.toList ∧ ofLine? text = found := by
  have hplain : ∀ first ∈ forms.map Prod.fst, '\n' ∉ first.toList := by decide
  have hstring : text = String.ofList (written name body) := by
    rw [← htext, String.ofList_toList]
  rw [htext, hstring, ofLine?_written hform hmark, hfound]
  exact ⟨isLine_written (hplain name (List.mem_map_of_mem hform)) hbreak, rfl⟩

private theorem not_mark_of_notMem {body : List Char} (h : '@' ∉ body) : ¬mark <:+: body :=
  fun hmark => h (hmark.subset List.mem_cons_self)

private theorem notMem_toString_int {c : Char} (hc : c.isDigit = false) (hminus : c ≠ '-')
    (n : Int) :
    c ∉ (toString n).toList := by
  have hdigits : ∀ m : Nat, c ∉ Nat.toDigits 10 m := by
    intro m hmem
    rw [(Json.isDigits_toDigits m).2 c hmem] at hc
    cases hc
  cases n with
  | ofNat m =>
    rw [show toString (Int.ofNat m) = toString m from rfl, Json.toList_toString]
    exact hdigits m
  | negSucc m =>
    rw [show toString (Int.negSucc m) = "-" ++ toString (m + 1) from rfl, String.toList_append,
      Json.toList_toString, List.mem_append]
    rintro (hmem | hmem)
    · exact hminus (List.mem_singleton.1 hmem)
    · exact hdigits (m + 1) hmem

private theorem isRead_relationDepth (depth : UInt32) : (relationDepth depth).IsRead := by
  have hplain : ∀ c : Char, c.isDigit = false → c ∉ (toString depth).toList := by
    intro c hc hmem
    have htext : (toString depth).toList = Nat.toDigits 10 depth.toNat := Json.toList_toString _
    rw [htext] at hmem
    rw [(Json.isDigits_toDigits _).2 c hmem] at hc
    cases hc
  have htext : (relationDepth depth).text.toList =
      written "relationDepth" (toString depth).toList :=
    toList_written (toString depth) (by decide)
  exact read_written relationDepth_mem_forms htext (depthForm_written depth) (hplain '\n' rfl)
    (not_mark_of_notMem (hplain '@' rfl))

private theorem isRead_range {low high : Int} (hvalid : (range low high).Valid) :
    (range low high).IsRead := by
  obtain ⟨hle, hlow, hhigh⟩ := hvalid
  obtain ⟨min, max, hrange, hmin, hmax⟩ := rangeOf?_int hle hlow hhigh
  have hplain : ∀ c : Char, c.isDigit = false → c ≠ '-' → c ∉ ", ".toList →
      c ∉ (toString low ++ ", " ++ toString high).toList := by
    intro c hc hminus hcomma
    simp only [String.toList_append, List.mem_append, not_or]
    exact ⟨⟨notMem_toString_int hc hminus low, hcomma⟩, notMem_toString_int hc hminus high⟩
  have hform := rangeForm_written low high
  rw [hrange] at hform
  have htext : (range low high).text.toList =
      written "range" (toString low ++ ", " ++ toString high).toList :=
    toList_written (toString low ++ ", " ++ toString high) (by decide)
  obtain ⟨hline, hread⟩ := read_written range_mem_forms htext hform
    (hplain '\n' rfl (by decide) (by decide))
    (not_mark_of_notMem (hplain '@' rfl (by decide) (by decide)))
  exact ⟨hline, min, max, hread, hmin, hmax⟩

private theorem isRead_enum {options : List (Wrapping × String)} (hvalid : (enum options).Valid) :
    (enum options).IsRead := by
  obtain ⟨hne, hoptions⟩ := hvalid
  have hoptionsOf := optionsOf_joined hne hoptions
  -- what stands in the arguments stands in an option
  have hinside : ∀ needle : List Char, ',' ∉ needle → ' ' ∉ needle → needle.any isQuote = false →
      needle ≠ [] → needle <:+: (", ".intercalate (options.map wrapped)).toList →
        ∃ option ∈ options, needle <:+: option.2.toList := by
    intro needle hcomma hblank hquote hneedle hfound
    obtain ⟨text, htext, hfound⟩ := infix_of_joined hcomma hblank hneedle hfound
    obtain ⟨option, hoption, rfl⟩ := List.mem_map.1 htext
    exact ⟨option, hoption, infix_of_wrapped hquote hneedle hfound⟩
  have hbreak : '\n' ∉ (", ".intercalate (options.map wrapped)).toList := by
    intro hmem
    obtain ⟨option, hoption, hfound⟩ := hinside ['\n'] (by decide) (by decide) rfl
      (List.cons_ne_nil _ _) ((List.singleton_infix_iff _ _).2 hmem)
    exact (hoptions option hoption).unbroken ((List.singleton_infix_iff _ _).1 hfound)
  have hmark : ¬mark <:+: (", ".intercalate (options.map wrapped)).toList := by
    intro hmark
    obtain ⟨option, hoption, hfound⟩ := hinside mark (by decide) (by decide) (by decide)
      (by decide) hmark
    have hcontains : contains option.2 "@mock" = true := (occursIn_iff _ _).2 hfound
    rw [(hoptions option hoption).marked] at hcontains
    cases hcontains
  have hbody : (", ".intercalate (options.map wrapped)).toList ≠ [] := by
    intro hnil
    rw [hnil] at hoptionsOf
    exact hne (List.map_eq_nil_iff.1 hoptionsOf.symm)
  have hform := enumForm_written hbody hbreak
  rw [hoptionsOf] at hform
  have htext : (enum options).text.toList =
      written "enum" (", ".intercalate (options.map wrapped)).toList :=
    toList_written (", ".intercalate (options.map wrapped)) (by decide)
  exact read_written enum_mem_forms htext hform hbreak hmark

theorem isRead_bare {value : String} (hvalid : (bare value).Valid) : (bare value).IsRead := by
  have htext : (bare value).text.toList = "@mock ".toList ++ value.toList :=
    String.toList_append
  have htrim : trim ("@mock ".toList ++ value.toList) = "@mock ".toList ++ value.toList :=
    trim_append_of_trim_eq (d := '@') rfl "mock ".toList hvalid.trimmed hvalid.ne_nil
  have hfaker : occursIn "faker.".toList ("@mock ".toList ++ value.toList) =
      contains value "faker." := by
    rw [Bool.eq_iff_iff, contains, occursIn_iff, occursIn_iff]
    exact ⟨infix_of_append_left (by decide), fun h => h.trans (List.suffix_append _ _).isInfix⟩
  have hread : ofLine? (bare value).text =
      bare? ("@mock ".toList ++ value.toList) value.toList := by
    unfold ofLine?
    simp only [htext, htrim, after?_append]
  refine ⟨⟨by simp [htext], by rw [htext, htrim], ?_⟩, ?_⟩
  · rw [htext, List.mem_append]
    rintro (hmem | hmem)
    · exact absurd hmem (by decide)
    · exact hvalid.unbroken hmem
  · rw [hread]
    have hvisible : value.toList.isEmpty = false := by simpa using hvalid.ne_nil
    unfold bare?
    simp only [hvalid.trimmed, hfaker, hvisible, String.ofList_toList, Means, startsWith]
    cases "faker.".toList.isPrefixOf value.toList with
    | true => simp
    | false => cases contains value "faker." <;> simp

variable {line : CanonicalLine}

private theorem Valid.isRead (hvalid : line.Valid) : line.IsRead := by
  cases line with
  | relationDepth depth => exact isRead_relationDepth depth
  | range low high => exact isRead_range hvalid
  | enum options => exact isRead_enum hvalid
  | bare value => exact isRead_bare hvalid

private theorem Means.fits {found : Option Directive} (hvalid : line.Valid)
    (hmeans : line.Means found)
    (scalar : Option ScalarType) : ∀ directive ∈ found, directive.fits scalar = true := by
  intro directive hdirective
  cases line with
  | relationDepth depth =>
    cases hmeans.symm.trans hdirective
    rfl
  | range low high =>
    obtain ⟨min, max, hfound, hmin, hmax⟩ := hmeans
    cases hfound.symm.trans hdirective
    have horder : min.ceil ≤ max.floor := by
      rw [Finite64.ceil_of_units hmin, Finite64.floor_of_units hmax]
      exact hvalid.1
    simp [Directive.fits, horder]
  | enum options =>
    cases hmeans.symm.trans hdirective
    rfl
  | bare value =>
    simp only [Means] at hmeans
    split_ifs at hmeans
    · cases hmeans.symm.trans hdirective
      rfl
    · cases hmeans.symm.trans hdirective
    · cases hmeans.symm.trans hdirective
      rfl

end CanonicalLine

/-- A canonical line is read as it is meant, whatever blanks stand around it, and a field takes it
from the end of a comment without other marks. -/
theorem canonical_line_read {line : CanonicalLine} {front back : String} (hvalid : line.Valid)
    (hfront : isBlankText front = true) (hback : isBlankText back = true) :
    line.Means (ofLine? (front ++ line.text ++ back)) ∧
      ∀ (field : Field) (before : List String), (∀ text ∈ before, contains text "@mock" = false) →
        field.documentation = some ("\n".intercalate (before ++ [front ++ line.text ++ back])) →
          field.directive? = ofLine? (front ++ line.text ++ back) := by
  obtain ⟨hline, hmeans⟩ := hvalid.isRead
  rw [isBlankText, List.all_eq_true] at hfront hback
  rw [ofLine?_padded hfront hback]
  refine ⟨hmeans, fun field before hbefore hdoc => ?_⟩
  have hunmarked : ∀ text ∈ before, ¬mark <:+: text.toList := by
    intro text htext hmark
    have hcontains : contains text "@mock" = true := (occursIn_iff _ _).2 hmark
    rw [hbefore text htext] at hcontains
    cases hcontains
  exact Field.directive?_of_single (Field.directives_of_last hdoc hunmarked hfront hback hline)
    (hmeans.fits hvalid field.scalar?)

/-- Options with parentheses, blanks and either quote, below two lines of other text. -/
theorem canonical_line_read_sizes :
    let line := CanonicalLine.enum
      [(.plain, "small (S)"), (.singleQuotes, "large"), (.doubleQuotes, "extra large")]
    let field := { Field.bare "size" .scalar "String" with
      documentation := some
        "Size of a shirt\n\n \t@mock.enum(small (S), \x27large\x27, \"extra large\")  " }
    line.Valid ∧ isBlankText " \t" = true ∧ isBlankText "  " = true ∧
      ofLine? " \t@mock.enum(small (S), \x27large\x27, \"extra large\")  " =
        some (.enum ["small (S)", "large", "extra large"]) ∧
      field.directive? = some (.enum ["small (S)", "large", "extra large"]) := by
  intro line field
  have hvalid : line.Valid := by
    refine ⟨List.cons_ne_nil _ _, fun option hoption => ?_⟩
    simp only [List.mem_cons, List.not_mem_nil, or_false] at hoption
    rcases hoption with rfl | rfl | rfl
    · exact ⟨⟨by decide, by decide, by decide⟩, by decide, by decide, by decide⟩
    · exact ⟨⟨by decide, by decide, by decide⟩, by decide, by decide, by decide⟩
    · exact ⟨⟨by decide, by decide, by decide⟩, by decide, by decide, by decide⟩
  obtain ⟨hmeans, hlast⟩ := @canonical_line_read line " \t" "  " hvalid (by decide) (by decide)
  have hread := hlast field ["Size of a shirt", ""] (by decide) (by decide)
  exact ⟨hvalid, by decide, by decide, hmeans, hread.trans hmeans⟩

end Directive

end SchemaMocks
