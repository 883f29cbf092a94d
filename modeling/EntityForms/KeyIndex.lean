/-!
# Indexes of positions

Tables list their elements and find one by its key. Instead of scanning the list they keep an index,
which leads from a key to a position. A table that enters its elements one after the other has an
index that agrees with a scan at every moment (`Indexes.concat`), whatever the index is made of:
only its look-up function is spoken of here.
-/

namespace EntityForms

universe u v

variable {κ : Type u} {α : Type v} {key : α → κ} {keys : List κ} {k : κ} {a : α} {l rest : List α}

/-! ## Distinct keys -/

theorem key_not_mem_of_nodup (h : ((l ++ a :: rest).map key).Nodup) : key a ∉ l.map key := by
  rw [List.map_append, List.nodup_append] at h
  intro hmem
  exact h.2.2 _ hmem _ List.mem_cons_self rfl

theorem nodup_map_append_singleton :
    ((l ++ [a]).map key).Nodup ↔ (l.map key).Nodup ∧ key a ∉ l.map key := by
  constructor
  · intro h
    refine ⟨?_, key_not_mem_of_nodup h⟩
    rw [List.map_append] at h
    exact (List.nodup_append.mp h).1
  · rintro ⟨hl, hnew⟩
    rw [List.map_append, List.nodup_append]
    refine ⟨hl, List.pairwise_singleton _ _, fun k₁ hk₁ k₂ hk₂ ↦ ?_⟩
    obtain rfl := List.mem_singleton.mp hk₂
    rintro rfl
    exact hnew hk₁

/-! ## Agreement with a scan -/

variable [DecidableEq κ] {find find' : κ → Option Nat}

/-- An index leads from each key to the first place at which the key stands. -/
def Indexes (find : κ → Option Nat) (keys : List κ) : Prop :=
  ∀ k, find k = keys.findIdx? fun k' ↦ k' == k

namespace Indexes

theorem nil (h : ∀ k, find k = none) : Indexes find [] := h

theorem isSome_iff (h : Indexes find keys) : (find k).isSome = true ↔ k ∈ keys := by
  rw [h, List.findIdx?_isSome]
  simp

theorem eq_none_iff (h : Indexes find keys) : find k = none ↔ k ∉ keys := by
  rw [← h.isSome_iff, Option.not_isSome_iff_eq_none]

/-- A new key is entered at the end. -/
theorem concat (h : Indexes find keys) (hnew : k ∉ keys)
    (hfind : ∀ k', find' k' = if k = k' then some keys.length else find k') :
    Indexes find' (keys ++ [k]) := by
  intro k'
  rw [hfind, List.findIdx?_append, List.findIdx?_singleton, ← h]
  by_cases hk : k = k'
  · subst hk
    simp [h.eq_none_iff.mpr hnew]
  · simp [hk]

/-- What an index leads to is what a scan comes upon first. -/
theorem bind_getElem? (h : Indexes find (l.map key)) (k : κ) :
    ((find k).bind fun i ↦ l[i]?) = l.find? fun a ↦ key a == k := by
  rw [h, List.findIdx?_map, List.find?_eq_bind_findIdx?_getElem?]
  rfl

end Indexes

end EntityForms
