import EntityForms.Proofs.Codec.Fields
import EntityForms.Wire.Reading
import Mathlib.Logic.Unique

/-!
# The members of a record

A record is read as a value of its type in two passes. The first one tests the value of every member
that the record has, the second one takes the members of the type one by one. Both look at a record
through its keys only, so what they find, and what a change of one key does to it, is told key by
key.
-/

namespace EntityForms

/-! ## Integers -/

theorem Reader.int64_eq_ok_iff {v : Json} {n : Int64} : int64 v = .ok n ↔ v = .ofInt64 n := by
  cases v with
  | number m =>
    cases m with
    | integer i h =>
      simp only [int64, integer, Json.ofInt64, Number.ofInt64, Json.number.injEq,
        Number.integer.injEq, ← Text.int64?_eq_some_iff]
      cases Text.int64? i <;> simp
    | float x h => simp [int64, integer, Json.ofInt64, Number.ofInt64]
  | null | bool | text | list | object => simp [int64, integer, Json.ofInt64]

namespace Record

variable {α : Type} {r : Record} {name key : String} {v : Json} {reader : Reader α}

/-! ## The first pass -/

theorem checkMembers_eq_ok_iff_forall_mem {members : Members} {l : List (String × Json)} :
    checkMembers members l = .ok () ↔
      ∀ e ∈ l, ∀ test, members.lookup e.1 = some test → test e.2 = .ok () := by
  induction l with
  | nil => simp [checkMembers]
  | cons e l ih =>
    obtain ⟨key, value⟩ := e
    rw [checkMembers, List.forall_mem_cons, ← ih]
    cases members.lookup key with
    | none => simp [bind, Except.bind]
    | some test => simp [Except.bind_eq_ok_iff, Unique.exists_iff]

theorem checkMembers_eq_ok_iff {members : Members} :
    checkMembers members r.entries = .ok () ↔
      ∀ key v test, r.get? key = some v → members.lookup key = some test → test v = .ok () := by
  rw [checkMembers_eq_ok_iff_forall_mem, Prod.forall]
  simp only [Dictionary.mem_entries_iff]
  exact ⟨fun h key v test hv ↦ h key v hv test, fun h key v hv test ↦ h key v test hv⟩

/-! ## The second pass -/

theorem required_insert_of_ne (hne : key ≠ name) (v : Json) :
    required (r.insert key v) name reader = r.required name reader := by
  rw [required, Dictionary.get?_insert_of_ne r hne, ← required]

theorem optional_insert_of_ne (hne : key ≠ name) (v : Json) :
    optional (r.insert key v) name reader = r.optional name reader := by
  rw [optional, Dictionary.get?_insert_of_ne r hne, ← optional]

theorem optional_insert_self (v : Json) :
    optional (r.insert name v) name reader = reader.option v := by
  rw [optional, Dictionary.get?_insert_self]

theorem get?_of_optional {a : α}
    (h : optional r name reader = .ok (some a)) : ∃ v, r.get? name = some v ∧ reader v = .ok a := by
  rw [optional] at h
  cases hget : r.get? name with
  | none => simp [hget] at h
  | some v =>
    rw [hget] at h
    have hread : (reader v).map some = .ok (some a) := by
      cases v with
      | null => cases h
      | bool | number | text | list | object => exact h
    obtain ⟨a', ha', hsome⟩ := Except.map_eq_ok_iff.mp hread
    rw [Option.some.inj hsome] at ha'
    exact ⟨v, rfl, ha'⟩

end Record

end EntityForms
