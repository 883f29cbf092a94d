import EntityForms.Codec
import EntityForms.Proofs.Text.Pieces

/-!
# The lists that texts stand for

A form edits a list in one line of text, and the wire gets the list that the text stands for
(`ListShape.toWire`). Texts that are put together with a delimiter stand for their lists in
sequence. The lists that come about so are those of names, and each of them is the list of its own
join. All this is true of every delimiter, and it may be white space itself.

As much is true of other functions too, such as the one that drops a piece with white space around
it instead of trimming it. What determines the list of every text is the first law together with the
lists of the texts without a delimiter (`toWire_onto_names`).
-/

namespace EntityForms.ListShape

open Text (IsName TakesApart joinNames)

/--
A delimiter between two texts separates their lists. Every item of a list is a name, wherever it
comes from, and a list is what its join stands for exactly when its items are names. No other
function takes texts apart at the delimiter.
-/
theorem toWire_onto_names (d : Char) :
    (∀ s t : String, toWire d (.ui (s ++ String.singleton d ++ t)) =
      toWire d (.ui s) ++ toWire d (.ui t)) ∧
    (∀ s : String, ∀ item ∈ toWire d (.ui s), IsName d item) ∧
    (∀ names : List String, toWire d (.ui (joinNames d names)) = names ↔
      ∀ name ∈ names, IsName d name) ∧
    ∀ split : String → List String, TakesApart d split ↔ ∀ s, split s = toWire d (.ui s) := by
  have hlaws : TakesApart d fun s ↦ toWire d (.ui s) := Text.takesApart_splitNames d
  refine ⟨hlaws.append, fun s item ↦ Text.isName_of_mem_splitNames, ?_, ?_⟩
  · intro names
    rw [hlaws.split_joinNames names]
    exact Text.flatMap_splitNames_eq_self_iff
  · intro split
    constructor
    · intro h s
      exact h.unique hlaws s
    · intro h
      rw [funext h]
      exact hlaws

/-- With blanks for delimiters, a tab between two of them is no word, and a no-break space in front
of a word is not part of it. -/
theorem toWire_onto_names_sampleWords :
    toWire ' ' (.ui ("x \t " ++ String.singleton ' ' ++ "\u00a0y")) = ["x", "y"] ∧
      IsName ' ' "x" ∧ IsName ' ' "y" ∧
      toWire ' ' (.ui (joinNames ' ' ["x", "y"])) = ["x", "y"] ∧
      TakesApart ' ' (Text.splitNames ' ') := by
  obtain ⟨happend, hnames, hjoin, hlaws⟩ := toWire_onto_names ' '
  have hitems : toWire ' ' (.ui ("x \t " ++ String.singleton ' ' ++ "\u00a0y")) = ["x", "y"] := by
    rw [happend]
    rfl
  have hwords : ∀ item ∈ ["x", "y"], IsName ' ' item := by
    rw [← hitems]
    exact hnames _
  exact ⟨hitems, hwords "x" (by simp), hwords "y" (by simp), (hjoin _).mpr hwords,
    (hlaws _).mpr fun _ ↦ rfl⟩

end EntityForms.ListShape
