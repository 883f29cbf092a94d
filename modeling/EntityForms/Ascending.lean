import EntityForms.Dictionary

/-!
# Entries in ascending order

A value may hold a dictionary of values of its own kind. While the values are still being defined,
nothing can be said yet of a list of them, and a dictionary is a list with a property. `Ascending`
tells the order of the keys by its type instead; `toDictionary` and `Dictionary.ascending` lead from
the one to the other.
-/

namespace EntityForms

universe u

variable {α : Type u} {first : Option String}

/-- Entries with strictly increasing keys; the index is the first key, if there is any. -/
inductive Ascending (α : Type u) : Option String → Type u where
  | nil : Ascending α none
  | cons {next : Option String} (key : String) (value : α) (rest : Ascending α next)
    (lt : ∀ k ∈ next, key < k) : Ascending α (some key)

namespace Ascending

/-- The keys with their values. -/
def entries {first : Option String} : Ascending α first → List (String × α)
  | .nil => []
  | .cons key value rest _ => (key, value) :: entries rest

theorem head?_entries (m : Ascending α first) : m.entries.head?.map Prod.fst = first := by
  cases m <;> rfl

theorem pairwise_entries (m : Ascending α first) :
    m.entries.Pairwise fun a b ↦ a.1 < b.1 := by
  induction m with
  | nil => exact .nil
  | cons key value rest hlt ih =>
    refine List.pairwise_cons.mpr ⟨fun e he ↦ ?_, ih⟩
    have hfirst := rest.head?_entries
    cases hrest : rest.entries with
    | nil =>
      rw [hrest] at he
      cases he
    | cons e₀ l =>
      rw [hrest] at he ih hfirst
      have hkey : key < e₀.1 := hlt e₀.1 hfirst.symm
      rcases List.mem_cons.mp he with rfl | he
      · exact hkey
      · exact String.lt_trans hkey ((List.pairwise_cons.mp ih).1 e he)

/-- The entries of a list with increasing keys. -/
def ofEntries : (l : List (String × α)) → (l.Pairwise fun a b ↦ a.1 < b.1) →
    Ascending α (l.head?.map Prod.fst)
  | [], _ => .nil
  | (key, value) :: rest, h =>
    .cons key value (ofEntries rest (List.pairwise_cons.mp h).2) fun k hk ↦ by
      obtain ⟨e, he, rfl⟩ := Option.map_eq_some_iff.mp hk
      exact (List.pairwise_cons.mp h).1 e (List.mem_of_head? he)

theorem entries_ofEntries (l : List (String × α)) (h : l.Pairwise fun a b ↦ a.1 < b.1) :
    (ofEntries l h).entries = l := by
  induction l with
  | nil => rfl
  | cons e l ih => exact congrArg (e :: ·) (ih _)

/-- The dictionary with these entries. -/
def toDictionary (m : Ascending α first) : Dictionary α := ⟨m.entries, m.pairwise_entries⟩

end Ascending

/-- The entries of a dictionary. -/
def Dictionary.ascending (d : Dictionary α) : Ascending α (d.entries.head?.map Prod.fst) :=
  .ofEntries d.entries d.increasing

@[simp] theorem Ascending.toDictionary_ascending (d : Dictionary α) :
    d.ascending.toDictionary = d := by
  have hentries : d.ascending.toDictionary.entries = d.entries := entries_ofEntries _ _
  refine Dictionary.ext_get? fun k ↦ ?_
  rw [Dictionary.get?, Dictionary.get?, hentries]

end EntityForms
