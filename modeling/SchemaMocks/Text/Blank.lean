set_option autoImplicit false
set_option relaxedAutoImplicit false

/-!
Blank characters are those with the Unicode property White_Space. Trimming removes them from both
ends of a text, and a text without a visible character is blank.
-/

namespace SchemaMocks.Text

/-- The characters with the property White_Space. -/
def isBlank (c : Char) : Bool :=
  let n := c.toNat
  (0x9 ≤ n && n ≤ 0xD) || n == 0x20 || n == 0x85 || n == 0xA0 || n == 0x1680
    || (0x2000 ≤ n && n ≤ 0x200A) || n == 0x2028 || n == 0x2029 || n == 0x202F
    || n == 0x205F || n == 0x3000

def trimFront (cs : List Char) : List Char :=
  cs.dropWhile isBlank

def trimBack (cs : List Char) : List Char :=
  (trimFront cs.reverse).reverse

def trim (cs : List Char) : List Char :=
  trimBack (trimFront cs)

def trimmed (s : String) : String :=
  String.ofList (trim s.toList)

def isBlankText (s : String) : Bool :=
  s.toList.all isBlank

theorem trimFront_eq_nil {cs : List Char} (h : ∀ c ∈ cs, isBlank c = true) : trimFront cs = [] := by
  induction cs with
  | nil => rfl
  | cons c rest ih =>
    have hc : isBlank c = true := h c List.mem_cons_self
    simp only [trimFront, List.dropWhile_cons, hc, if_true]
    exact ih fun d hd => h d (List.mem_cons_of_mem c hd)

theorem trim_eq_nil {cs : List Char} (h : ∀ c ∈ cs, isBlank c = true) : trim cs = [] := by
  simp only [trim, trimFront_eq_nil h]
  rfl

end SchemaMocks.Text
