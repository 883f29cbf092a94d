import EntityForms.Text.Blank

/-!
# Delimited lists

A list of names is edited in a single line of text, one delimiter between two names. `splitAt`
takes a text apart at every delimiter and `joinWith` puts one together; `pieces` is the reading a
user expects, with every piece trimmed and the empty ones dropped, so that a blank text is the
empty list.
-/

namespace EntityForms.Text

/-- Put `c` in front of the first of several pieces. -/
def consFirst (c : Char) : List (List Char) → List (List Char)
  | [] => [[c]]
  | p :: ps => (c :: p) :: ps

/-- The stretches between delimiters; there is one more of them than there are delimiters. -/
def splitAt (d : Char) : List Char → List (List Char)
  | [] => [[]]
  | c :: cs => if c = d then [] :: splitAt d cs else consFirst c (splitAt d cs)

/-- The trimmed stretches between delimiters that are not empty. -/
def pieces (d : Char) (cs : List Char) : List (List Char) :=
  ((splitAt d cs).map trim).filter fun p ↦ !p.isEmpty

/-- The names in a delimited text. -/
def splitNames (d : Char) (s : String) : List String :=
  (pieces d s.toList).map String.ofList

/-- Write the names with one delimiter between any two of them. -/
def joinNames (d : Char) (names : List String) : String :=
  String.ofList ([d].intercalate (names.map String.toList))

@[simp] theorem splitAt_nil (d : Char) : splitAt d [] = [[]] := rfl

@[simp] theorem splitAt_cons_self (d : Char) (cs : List Char) :
    splitAt d (d :: cs) = [] :: splitAt d cs := by
  simp [splitAt]

theorem splitAt_cons_of_ne {c d : Char} (h : c ≠ d) (cs : List Char) :
    splitAt d (c :: cs) = consFirst c (splitAt d cs) := by
  simp [splitAt, h]

@[simp] theorem splitNames_empty (d : Char) : splitNames d "" = [] := rfl

end EntityForms.Text
