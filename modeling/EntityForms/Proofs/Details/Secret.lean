import EntityForms.Proofs.Details.History
import EntityForms.Proofs.EditSession.Posting

/-!
# The secret of a details view

A details view takes its secret out of the form when an existing record has been loaded. That is
done once: an input that names the secret puts it back, whether or not the form shows a control for
it, and nothing takes it out again before the next load. So the form of an existing record holds the
secret exactly when the run has an input for it since the last load
(`contains_secret_stateAfter`).

For accounts this decides what is sent. The password is a field that is sent, and the mark that
keeps it out of the form of an existing account is not looked at when the payload is made
(`password_posted_iff`).
-/

namespace EntityForms

namespace Details

open EditSession (State)

variable {Wire : Type} {d : Details Wire} {field : String}

/-- Between loads only an input for the secret brings it into the form, and nothing takes it out. -/
theorem contains_secret_stateAfter (hfield : d.session.fields.contains field = true)
    {ops : List (Operation × Backend)} (hops : ∀ step ∈ ops, ∀ k, step.1 ≠ .load k) (st : State) :
    (d.stateAfter ops st).form.contains field = true ↔
      st.form.contains field = true ∨ ∃ step ∈ ops, ∃ input, step.1 = .setField field input := by
  induction ops generalizing st with
  | nil => simp
  | cons step ops ih =>
    obtain ⟨op, backend⟩ := step
    rw [List.forall_mem_cons] at hops
    rw [stateAfter_cons, ih hops.2]
    simp only [List.mem_cons, exists_eq_or_imp]
    rw [← or_assoc]
    -- what is left is the first step: it must bring the secret in exactly by an input for it
    refine or_congr_left ?_
    cases op with
    | load k => exact absurd rfl (hops.1 k)
    | save =>
      have hform : (d.perform .save backend st).state.form = st.form :=
        (d.save_frame backend st).2.2
      simp [hform]
    | cancel => simp [perform, cancel, EditSession.close]
    | setField name input =>
      rw [perform, EditSession.Outcome.map]
      by_cases hname : name = field
      · subst hname
        obtain ⟨f, hf⟩ := FieldTable.contains_iff_get?.mp hfield
        have hget := d.session.get?_form_setField_self st name input
        rw [hf, Option.map_some, Option.some_or] at hget
        exact iff_of_true (Dictionary.contains_iff.mpr ⟨_, hget⟩) (.inr ⟨input, rfl⟩)
      · rw [Dictionary.contains, EditSession.get?_form_setField_of_ne _ _ hname,
          ← Dictionary.contains]
        simp [hname]

theorem contains_secret_of_post {ops : List (Operation × Backend)}
    (o : LastOpening Operation.load ops) {k : Int64} (hid : o.id = some k)
    (hsecret : d.secret = some field) (hfield : d.session.fields.contains field = true)
    (hloaded : (d.stateAfter ops d.session.initial).loaded = true) :
    (d.stateAfter ops d.session.initial).form.contains field = true ↔
      ∃ step ∈ o.after, ∃ input, step.1 = .setField field input := by
  have hresult := result_of_loaded o hloaded
  rw [loaded, hid] at hresult
  have hhidden : (d.loaded o).state.form.contains field = false := by
    rw [loaded, hid]
    exact Dictionary.contains_eq_false_iff.mpr (d.get?_secret_load _ _ hsecret hresult)
  rw [d.stateAfter_eq_after o, contains_secret_stateAfter hfield o.last, hhidden]
  simp

end Details

/-! ## The password of an account -/

namespace UserAccount

theorem isSynced_password (config : Config) :
    ∃ f, (session config).fields.get? "password" = some f ∧ f.isSynced = true :=
  ⟨_, rfl, rfl⟩

/--
While an existing account is edited, a payload that is posted has a password exactly when one was
entered since the account was loaded; the stored password is never sent back.
-/
theorem password_posted_iff (config : Config) {ops : List (Details.Operation × Backend)}
    (o : LastOpening Details.Operation.load ops) {k : Int64} (hid : o.id = some k)
    {op : Details.Operation} {backend : Backend} {url : String} {body : Record}
    {answer : Except ApiError Json}
    (h : .post url body answer ∈ ((details (session config)).perform op backend
      ((details (session config)).stateAfter ops (session config).initial)).trace) :
    body.contains "password" = true ↔
      ∃ step ∈ o.after, ∃ input, step.1 = .setField "password" input := by
  obtain ⟨-, hpost⟩ := Details.post_mem_perform h
  obtain ⟨-, hloaded, hpayload, -⟩ := EditSession.post_mem_submit hpost
  obtain ⟨f, hf, hsynced⟩ := isSynced_password config
  have hdeclared := FieldTable.contains_iff_get?.mpr ⟨_, hf⟩
  -- the payload goes by the mark for sent fields only, which the password has
  have hsent : ((details (session config)).session.fields.get? "password").all Field.isSynced =
      true := by
    change ((session config).fields.get? "password").all Field.isSynced = true
    rw [hf, Option.all_some, hsynced]
  rw [EditSession.contains_payload hpayload (.inl (by decide)), hsent, Bool.true_and]
  exact Details.contains_secret_of_post o hid rfl hdeclared hloaded

/-- The administrator's account is loaded and renamed. -/
def sampleRename : List (Details.Operation × Backend) :=
  [.load (some 4), .setField "username" (.text "admin")].map fun op ↦ (op, sampleBackend)

set_option maxRecDepth 8000 in
/-- The renamed account is posted without the password that it was stored with. -/
theorem password_posted_of_sampleRename :
    ∃ url body answer, .post url body answer ∈ ((details (session .standard)).perform .save
        sampleBackend ((details (session .standard)).stateAfter sampleRename
          (session .standard).initial)).trace ∧
      body.contains "password" = false := by
  let o : LastOpening Details.Operation.load sampleRename :=
    { before := []
      id := some 4
      backend := sampleBackend
      after := [(.setField "username" (.text "admin"), sampleBackend)]
      run_eq := rfl
      last := by simp }
  let body : Record := .ofList [("group", .text "ops"), ("id", .ofInt64 4), ("type", .ofInt64 0),
    ("username", .text "admin"), ("validDays", .ofInt64 365)]
  have hpost : .post "/api/user/update" body (.ok .null) ∈
      ((details (session .standard)).perform .save sampleBackend
        ((details (session .standard)).stateAfter sampleRename
          (session .standard).initial)).trace :=
    List.mem_cons_of_mem _ List.mem_cons_self
  refine ⟨_, body, _, hpost, ?_⟩
  rw [Bool.eq_false_iff, Ne, password_posted_iff .standard o rfl hpost]
  simp [o]

set_option maxRecDepth 8000 in
/-- The form of a loaded account shows no password, and an input for it is sent all the same. -/
theorem entered_password_posted :
    let view := details (session .standard)
    let ops : List (Details.Operation × Backend) :=
      [.load (some 4), .setField "password" (.text "x")].map fun op ↦ (op, sampleBackend)
    ∃ url body answer,
      .post url body answer ∈ (view.perform .save sampleBackend
        (view.stateAfter ops (session .standard).initial)).trace ∧
      (view.stateAfter ops (session .standard).initial).id = some 4 ∧
      body.get? "password" = some (.text "x") := by
  let body : Record := .ofList [("group", .text "ops"), ("id", .ofInt64 4),
    ("password", .text "x"), ("type", .ofInt64 0), ("username", .text "root"),
    ("validDays", .ofInt64 365)]
  refine ⟨"/api/user/update", body, .ok .null, ?_, by rfl, by rfl⟩
  exact List.mem_cons_of_mem _ List.mem_cons_self

end UserAccount

end EntityForms
