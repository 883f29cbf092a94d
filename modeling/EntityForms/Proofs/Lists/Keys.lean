import Mathlib.Data.List.Nodup

/-!
# Lists with distinct keys

Fields have names and statuses have codes, and both are found by scanning a list. Where no key
occurs twice, a scan finds the one item with the key, and a scan for positions the one place where
it stands.
-/

namespace EntityForms

variable {α κ : Type} [BEq κ] [LawfulBEq κ] {l : List α} {key : α → κ} {k : κ} {a : α} {i : Nat}

theorem find?_key_eq_some_iff (h : (l.map key).Nodup) :
    (l.find? fun a ↦ key a == k) = some a ↔ a ∈ l ∧ key a = k := by
  constructor
  · intro hfind
    exact ⟨List.mem_of_find?_eq_some hfind, by simpa using List.find?_some hfind⟩
  · rintro ⟨ha, rfl⟩
    cases hfind : l.find? fun b ↦ key b == key a with
    | none => exact absurd (List.find?_eq_none.mp hfind a ha) (by simp)
    | some b =>
      have hkey : key b = key a := by simpa using List.find?_some hfind
      rw [List.inj_on_of_nodup_map h (List.mem_of_find?_eq_some hfind) ha hkey]

theorem findIdx?_key_eq_some_iff (h : (l.map key).Nodup) :
    (l.findIdx? fun a ↦ key a == k) = some i ↔ ∃ a, l[i]? = some a ∧ key a = k := by
  have hfound : ∀ {j}, (l.findIdx? fun a ↦ key a == k) = some j →
      ∃ a, l[j]? = some a ∧ key a = k := by
    intro j hj
    obtain ⟨hlt, hkey, -⟩ := List.findIdx?_eq_some_iff_getElem.mp hj
    exact ⟨l[j], List.getElem?_eq_getElem hlt, by simpa using hkey⟩
  refine ⟨hfound, ?_⟩
  rintro ⟨a, ha, rfl⟩
  have hsome : (l.findIdx? fun b ↦ key b == key a).isSome = true := by
    rw [List.findIdx?_isSome, List.any_eq_true]
    exact ⟨a, List.mem_of_getElem? ha, beq_self_eq_true _⟩
  obtain ⟨j, hj⟩ := Option.isSome_iff_exists.mp hsome
  obtain ⟨b, hb, hkey⟩ := hfound hj
  -- the key stands at both places, so they are one
  obtain ⟨hlt, -⟩ := List.getElem?_eq_some_iff.mp ha
  have hsame : (l.map key)[i]? = (l.map key)[j]? := by
    rw [List.getElem?_map, List.getElem?_map, ha, hb, Option.map_some, Option.map_some, hkey]
  rw [hj, (List.getElem?_inj (by rwa [List.length_map]) h).mp hsame]

end EntityForms
