import EntityForms.Details
import EntityForms.Proofs.EditSession.History

/-!
# What a session posts

A record is posted by submitting only, and only while the session is open on the record that it
last loaded, or on a new one. The path and the id of the payload are those of that opening.

What is sent for a new record has no other keys than fields that are declared and sent. That rests
on an invariant of the form, `FieldTable.Covers`: it begins with the initial values, a field that is
not declared takes no input, and so no key of a record that was loaded earlier in the run is left.
-/

namespace EntityForms

/-! ## Records of declared fields -/

namespace FieldTable

variable {t : FieldTable} {r : Record}

/-- Every key of the record is a declared field. -/
def Covers (t : FieldTable) (r : Record) : Prop :=
  ∀ key, r.contains key = true → t.contains key = true

theorem covers_initialRecord : t.Covers t.initialRecord :=
  fun _ ↦ contains_of_initialRecord

theorem Covers.insert (h : t.Covers r) {name : String} (hname : t.contains name = true)
    (v : Json) : t.Covers (r.insert name v) := by
  intro key hkey
  rw [Dictionary.contains_insert, Bool.or_eq_true, beq_iff_eq] at hkey
  rcases hkey with rfl | hkey
  · exact hname
  · exact h key hkey

theorem Covers.erase (h : t.Covers r) (name : String) : t.Covers (r.erase name) := by
  intro key hkey
  rw [Dictionary.contains_erase, Bool.and_eq_true] at hkey
  exact h key hkey.2

theorem covers_iff : t.Covers r ↔ ∀ key, t.contains key = false → r.contains key = false := by
  refine forall_congr' fun key ↦ ?_
  cases t.contains key <;> simp

end FieldTable

namespace EditSession

variable {Wire : Type} {s : EditSession Wire}

/-! ## The form of a new record -/

/-- No operation but an opening brings an undeclared key into the form. -/
theorem covers_perform {op : Operation} (hop : ∀ k, op ≠ .openRecord k) (backend : Backend)
    {st : State} (h : s.fields.Covers st.form) :
    s.fields.Covers (s.perform op backend st).state.form := by
  cases op with
  | openRecord id => exact absurd rfl (hop id)
  | setField name input =>
    rw [perform, Outcome.map, setField_eq]
    cases hf : s.fields.get? name with
    | none => exact h
    | some f => exact h.insert (FieldTable.contains_iff_get?.mpr ⟨_, hf⟩) _
  | clearField name => exact h.erase name
  | resetForm => exact FieldTable.covers_initialRecord
  | close => exact h
  | submit =>
    rw [perform, Outcome.map, form_submit]
    exact h

theorem covers_of_new {ops : List (Operation × Backend)} (o : LastOpening .openRecord ops)
    (hnew : o.id = none) : s.fields.Covers (s.stateAfter ops s.initial).form := by
  rw [s.stateAfter_eq_after o]
  refine s.stateAfter_induct (P := fun st ↦ s.fields.Covers st.form)
    (fun step hstep st ↦ covers_perform (o.last step hstep) step.2) ?_
  rw [opened, hnew, form_openRecord_none]
  exact FieldTable.covers_initialRecord

theorem synced_of_mem_payload {st : State} {body : Record} (h : s.payload st = .ok body)
    (hnew : st.id = none) (hform : s.fields.Covers st.form) {key : String}
    (hkey : body.contains key = true) :
    ∃ f, s.fields.get? key = some f ∧ f.isSynced = true := by
  rw [contains_payload h (.inr hnew), Bool.and_eq_true] at hkey
  obtain ⟨hsynced, hcontains⟩ := hkey
  -- the key is in the form and thus declared
  obtain ⟨f, hf⟩ := FieldTable.contains_iff_get?.mp (hform key hcontains)
  exact ⟨f, hf, by simpa [hf] using hsynced⟩

/-! ## Every run -/

/-- A request that saves the record of an id, or a new record where there is no id. -/
def IsSaveOf (s : EditSession Wire) (id : Option Int64) (url : String) (body : Record) : Prop :=
  match id with
  | some k => url = s.url s.entity.endpoints.update ∧ body.get? "id" = some (.ofInt64 k)
  | none => url = s.url s.entity.endpoints.create ∧
    ∀ key, body.contains key = true → ∃ f, s.fields.get? key = some f ∧ f.isSynced = true

/--
Whenever a run posts a record, the operation is a submission, the last opening succeeded and the
session has not been closed since. An existing record goes to the path of updates under the id that
was opened; a new one goes to the path of creations and has only fields that are declared and sent.
-/
theorem post_of_lastOpening (s : EditSession Wire) (ops : List (Operation × Backend))
    (op : Operation) (backend : Backend) {url : String} {body : Record}
    {answer : Except ApiError Json}
    (h : .post url body answer ∈ (s.perform op backend (s.stateAfter ops s.initial)).trace) :
    op = .submit ∧ ∃ o : LastOpening .openRecord ops,
      (s.opened o).result = .ok () ∧ (∀ step ∈ o.after, step.1 ≠ .close) ∧
        s.IsSaveOf o.id url body := by
  obtain ⟨hop, hpost⟩ := post_mem_perform h
  obtain ⟨hvisible, hloaded, hpayload, hurl⟩ := post_mem_submit hpost
  obtain ⟨o, hopened⟩ := exists_lastOpening_of_loaded hloaded
  have hclose : ∀ step ∈ o.after, step.1 ≠ .close := by
    rw [s.stateAfter_eq_after o] at hvisible
    exact (not_closed_of_visible o.last hvisible).2
  refine ⟨hop, o, hopened, hclose, ?_⟩
  have hid := s.id_stateAfter o
  rw [hid] at hurl
  cases hnew : o.id with
  | some k =>
    rw [hnew] at hurl hid
    exact ⟨hurl, get?_payload_id hpayload hid⟩
  | none =>
    rw [hnew] at hurl hid
    exact ⟨hurl, fun key ↦ synced_of_mem_payload hpayload hid (covers_of_new o hnew)⟩

end EditSession

namespace UserAccount

/-- A backend with a single account, which it gives out together with its password. -/
def sampleBackend : Backend where
  get url :=
    if url = "/api/user/get/4" then
      .ok (Record.toJson (.ofList [("group", .text "ops"), ("id", .ofInt64 4),
        ("password", .text "hash"), ("type", .ofInt64 0), ("username", .text "root"),
        ("validDays", .ofInt64 365)]))
    else .error (.status 404 ("no record at " ++ url))
  post _ _ := .ok .null

/-- An account is registered after another one was loaded and a third one could not be. -/
def registration : List (EditSession.Operation × Backend) :=
  [.openRecord (some 4), .openRecord (some 9), .openRecord none,
    .setField "username" (.text "ann"), .setField "password" (.text "s3cret"),
    .setField "validDays" (.text "30")].map fun op ↦ (op, sampleBackend)

set_option maxRecDepth 4000 in
/-- The registration is posted, and it is a request of the kind that every run posts. -/
theorem post_of_registration :
    ∃ url body answer, .post url body answer ∈
        ((session .standard).perform .submit sampleBackend
          ((session .standard).stateAfter registration (session .standard).initial)).trace ∧
      ∃ o : LastOpening .openRecord registration, ((session .standard).opened o).result = .ok () ∧
        (∀ step ∈ o.after, step.1 ≠ .close) ∧ (session .standard).IsSaveOf o.id url body := by
  let body : Record := .ofList [("password", .text "s3cret"), ("type", .ofInt64 1),
    ("username", .text "ann"), ("validDays", .ofInt64 30)]
  have hpost : .post "/api/user/register" body (.ok .null) ∈
      ((session .standard).perform .submit sampleBackend
        ((session .standard).stateAfter registration (session .standard).initial)).trace :=
    List.mem_cons_of_mem _ List.mem_cons_self
  exact ⟨_, body, _, hpost,
    ((session .standard).post_of_lastOpening registration .submit sampleBackend hpost).2⟩

end UserAccount

end EntityForms
