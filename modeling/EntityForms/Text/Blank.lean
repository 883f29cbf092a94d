/-!
# White space and trimming

Text is trimmed before it is read as a number, before it is checked for being empty and when a
delimited list is taken apart. Everywhere the class of blank characters is the Unicode property
`White_Space`: it holds the ideographic space and the no-break space, and neither the zero-width
space nor the information separators U+001C to U+001F.

Trimming is defined on lists of characters, where it is two `dropWhile`s, and lifted to strings.
-/

namespace EntityForms.Text

/-- Membership in the Unicode property `White_Space`. -/
def isBlank (c : Char) : Bool :=
  let n := c.toNat
  (0x09 ≤ n && n ≤ 0x0D) || n == 0x20 || n == 0x85 || n == 0xA0 || n == 0x1680 ||
    (0x2000 ≤ n && n ≤ 0x200A) || n == 0x2028 || n == 0x2029 || n == 0x202F || n == 0x205F ||
    n == 0x3000

/-- The characters from the first one that is not blank. -/
def trimStart (cs : List Char) : List Char := cs.dropWhile isBlank

/-- The characters up to the last one that is not blank. -/
def trimEnd (cs : List Char) : List Char := (cs.reverse.dropWhile isBlank).reverse

/-- Drop the blank characters at both ends. -/
def trim (cs : List Char) : List Char := trimEnd (trimStart cs)

/-- Drop the blank characters at both ends of a string. -/
def trimmed (s : String) : String := String.ofList (trim s.toList)

/-- A text without a character that is not blank. -/
def allBlank (s : String) : Bool := s.toList.all isBlank

@[simp] theorem toList_trimmed (s : String) : (trimmed s).toList = trim s.toList :=
  String.toList_ofList

theorem trimStart_trimStart (cs : List Char) : trimStart (trimStart cs) = trimStart cs := by
  unfold trimStart
  induction cs with
  | nil => rfl
  | cons c cs ih => by_cases h : isBlank c <;> simp [h, ih]

@[simp] theorem trim_nil : trim [] = [] := rfl

theorem dropWhile_isBlank_eq_nil_iff {cs : List Char} :
    cs.dropWhile isBlank = [] ↔ ∀ c ∈ cs, isBlank c := by
  induction cs with
  | nil => simp
  | cons c cs ih => by_cases h : isBlank c <;> simp [h, ih]

/-- Trimming leaves nothing exactly when every character is blank. -/
theorem trim_eq_nil_iff {cs : List Char} : trim cs = [] ↔ ∀ c ∈ cs, isBlank c := by
  have key : trimStart cs = [] ↔ ∀ c ∈ trimStart cs, isBlank c := by
    constructor
    · intro h
      simp [h]
    · intro h
      rw [← trimStart_trimStart cs]
      exact dropWhile_isBlank_eq_nil_iff.mpr h
  rw [trim, trimEnd, List.reverse_eq_nil_iff, dropWhile_isBlank_eq_nil_iff]
  simp only [List.mem_reverse]
  rw [← key, trimStart, dropWhile_isBlank_eq_nil_iff]

theorem allBlank_iff {s : String} : allBlank s = true ↔ trim s.toList = [] := by
  rw [trim_eq_nil_iff, allBlank, List.all_eq_true]

end EntityForms.Text
