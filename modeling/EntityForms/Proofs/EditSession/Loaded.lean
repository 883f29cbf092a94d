import EntityForms.Proofs.EditSession.Posting
import EntityForms.Proofs.EditSession.Update

/-!
# What a loaded form holds

A form that is marked as loaded is meant to hold the record of the id that is edited. The fields
that the entity declares are there to be changed; what tells whether the form is still that of the
record are the keys that it does not declare, which no input can bring back.

They stay as they were loaded for as long as the form is not reset (`get?_form_of_not_reset`). A
reset leaves the declared initial values only, and keeps the mark and the id; from then on the form
is that of a new record, and an update drops whatever the stored record held beside the declared
fields. So the meaning of the mark holds exactly when there was no reset since the last opening or
there was nothing to be lost (`loaded_form_iff`).
-/

namespace EntityForms

namespace EditSession

variable {Wire : Type} {s : EditSession Wire} {key : String}

/-! ## Keys that are not declared -/

theorem get?_form_perform (hkey : s.fields.contains key = false) {op : Operation}
    (hopen : ∀ k, op ≠ .openRecord k) (hclear : ∀ name, op ≠ .clearField name)
    (hreset : op ≠ .resetForm) (backend : Backend) (st : State) :
    (s.perform op backend st).state.form.get? key = st.form.get? key := by
  cases op with
  | openRecord k => exact absurd rfl (hopen k)
  | clearField name => exact absurd rfl (hclear name)
  | resetForm => exact absurd rfl hreset
  | close => rfl
  | submit => rw [perform, Outcome.map, form_submit]
  | setField name input =>
    rw [perform, Outcome.map]
    by_cases hname : name = key
    · subst hname
      rw [get?_form_setField_self, FieldTable.get?_eq_none_iff.mpr hkey]
      rfl
    · exact get?_form_setField_of_ne s st hname input

variable {ops : List (Operation × Backend)} {st : State}

theorem get?_form_of_not_reset (hkey : s.fields.contains key = false)
    (hopen : ∀ step ∈ ops, ∀ k, step.1 ≠ .openRecord k)
    (hclear : ∀ step ∈ ops, ∀ name, step.1 ≠ .clearField name)
    (hreset : ∀ step ∈ ops, step.1 ≠ .resetForm) :
    (s.stateAfter ops st).form.get? key = st.form.get? key := by
  refine s.stateAfter_induct (P := fun st' ↦ st'.form.get? key = st.form.get? key) ?_ rfl
  intro step hstep st' hst'
  rw [← hst']
  exact get?_form_perform hkey (hopen step hstep) (hclear step hstep) (hreset step hstep) _ _

theorem get?_form_of_reset (hkey : s.fields.contains key = false)
    (hopen : ∀ step ∈ ops, ∀ k, step.1 ≠ .openRecord k)
    (hclear : ∀ step ∈ ops, ∀ name, step.1 ≠ .clearField name)
    (hreset : ∃ step ∈ ops, step.1 = .resetForm) :
    (s.stateAfter ops st).form.get? key = none := by
  induction ops generalizing st with
  | nil => exact absurd hreset (by simp)
  | cons step ops ih =>
    rw [List.forall_mem_cons] at hopen hclear
    rw [stateAfter_cons]
    -- split at the last reset: only declared keys come into the form after it
    by_cases hlater : ∃ step ∈ ops, step.1 = .resetForm
    · exact ih hopen.2 hclear.2 hlater
    · have hlast : ∀ step ∈ ops, step.1 ≠ .resetForm := fun step hmem heq ↦
        hlater ⟨step, hmem, heq⟩
      have hstep : step.1 = .resetForm := by
        obtain ⟨step', hmem, heq⟩ := hreset
        rcases List.mem_cons.mp hmem with rfl | hmem
        · exact heq
        · exact absurd heq (hlast step' hmem)
      rw [get?_form_of_not_reset hkey hopen.2 hclear.2 hlast, hstep]
      refine Dictionary.contains_eq_false_iff.mp (Bool.eq_false_iff.mpr fun hinit ↦ ?_)
      rw [FieldTable.contains_of_initialRecord hinit] at hkey
      cases hkey

/-! ## The meaning of the mark -/

/-- The undeclared keys of the form since the last opening: all that were loaded, or none. -/
theorem get?_form_since (o : LastOpening .openRecord ops)
    (hclear : ∀ step ∈ ops, ∀ name, step.1 ≠ .clearField name) :
    (∀ step ∈ o.after, step.1 ≠ .resetForm) ∧ (∀ key, s.fields.contains key = false →
        (s.stateAfter ops s.initial).form.get? key = (s.opened o).state.form.get? key) ∨
      (∃ step ∈ o.after, step.1 = .resetForm) ∧ ∀ key, s.fields.contains key = false →
        (s.stateAfter ops s.initial).form.get? key = none := by
  have hclear' : ∀ step ∈ o.after, ∀ name, step.1 ≠ .clearField name := by
    intro step hstep
    refine hclear step ?_
    rw [o.run_eq]
    exact List.mem_append_right _ (List.mem_cons_of_mem _ hstep)
  rw [s.stateAfter_eq_after o]
  by_cases hreset : ∃ step ∈ o.after, step.1 = .resetForm
  · exact .inr ⟨hreset, fun key hkey ↦ get?_form_of_reset hkey o.last hclear' hreset⟩
  · have hkeep : ∀ step ∈ o.after, step.1 ≠ .resetForm := fun step hstep heq ↦
      hreset ⟨step, hstep, heq⟩
    exact .inl ⟨hkeep, fun key hkey ↦ get?_form_of_not_reset hkey o.last hclear' hkeep⟩

/--
A form is marked as loaded under the id `k`, in a run that clears no field. Then the last opening
has fetched a record `w` under that id, and the form holds the undeclared keys of `w` exactly when
it was not reset since or `w` has none. Under the same condition an update that is sent keeps all
of them; the id is put in on any account.
-/
theorem loaded_form_iff (s : EditSession Wire) {ops : List (Operation × Backend)} {k : Int64}
    (hclear : ∀ step ∈ ops, ∀ name, step.1 ≠ .clearField name)
    (hloaded : (s.stateAfter ops s.initial).loaded = true)
    (hid : (s.stateAfter ops s.initial).id = some k) :
    ∃ (o : LastOpening .openRecord ops) (w form : Record), o.id = some k ∧
      s.fetch o.backend k = .ok w ∧ s.entity.codec.parse w = .ok form ∧
      ((∀ key, s.fields.contains key = false →
          (s.stateAfter ops s.initial).form.get? key = form.get? key) ↔
        (∀ step ∈ o.after, step.1 ≠ .resetForm) ∨ s.fields.Covers w) ∧
      ∀ backend url body answer,
        .post url body answer ∈ (s.submit backend (s.stateAfter ops s.initial)).trace →
        ((∀ key, s.fields.contains key = false → w.contains key = true →
            body.contains key = true) ↔
          (∀ step ∈ o.after, step.1 ≠ .resetForm) ∨ s.fields.Covers (w.erase "id")) := by
  obtain ⟨o, hopened⟩ := exists_lastOpening_of_loaded hloaded
  have hok : o.id = some k := (s.id_stateAfter o).symm.trans hid
  have hsince := get?_form_since (s := s) o hclear
  rw [opened, hok] at hopened hsince
  obtain ⟨w, hfetch, hparse⟩ := form_openRecord_some hopened
  have hkeys : ∀ key, _ = w.contains key := fun key ↦ Codec.contains_parse hparse
  refine ⟨o, w, _, hok, hfetch, hparse, ?_, ?_⟩
  · rcases hsince with ⟨hkeep, hform⟩ | ⟨⟨step, hstep, heq⟩, hform⟩
    · exact iff_of_true hform (.inl hkeep)
    · have hreset : ¬∀ step ∈ o.after, step.1 ≠ .resetForm := fun h ↦ h step hstep heq
      rw [or_iff_right hreset, FieldTable.covers_iff]
      refine forall_congr' fun key ↦ imp_congr_right fun hkey ↦ ?_
      -- the form has nothing at the key, so it agrees with what was loaded where that has nothing
      rw [hform key hkey, eq_comm, ← Dictionary.contains_eq_false_iff, hkeys]
  · intro backend url body answer hpost
    have hpayload := (post_mem_submit hpost).2.2.1
    have hbody : body.contains "id" = true :=
      Dictionary.contains_iff.mpr ⟨_, get?_payload_id hpayload hid⟩
    have hsent : ∀ key, s.fields.contains key = false → key ≠ "id" →
        body.contains key = (s.stateAfter ops s.initial).form.contains key :=
      fun key hkey hne ↦ by
        rw [contains_payload hpayload (.inl hne), FieldTable.get?_eq_none_iff.mpr hkey,
          Option.all_none, Bool.true_and]
    rcases hsince with ⟨hkeep, hform⟩ | ⟨⟨step, hstep, heq⟩, hform⟩
    · refine iff_of_true (fun key hkey hstored ↦ ?_) (.inl hkeep)
      by_cases hne : key = "id"
      · rw [hne, hbody]
      · rw [hsent key hkey hne, Dictionary.contains, hform key hkey,
          ← Dictionary.contains, hkeys, hstored]
    · have hreset : ¬∀ step ∈ o.after, step.1 ≠ .resetForm := fun h ↦ h step hstep heq
      rw [or_iff_right hreset, FieldTable.covers_iff]
      refine forall_congr' fun key ↦ imp_congr_right fun hkey ↦ ?_
      rw [Dictionary.contains_erase]
      by_cases hne : key = "id"
      · simp [hne, hbody]
      · rw [hsent key hkey hne, Dictionary.contains_eq_false_iff.mpr (hform key hkey)]
        simp [hne]

end EditSession

/-! ## A source that is reset -/

namespace PostgresSource

/-- A stored source is opened, its form is reset, and what has to be filled in is filled in. -/
def sampleReset : List (EditSession.Operation × Backend) :=
  [.openRecord (some 5), .resetForm, .setField "hostname" (.text "pg.local"),
    .setField "database" (.text "shop"), .setField "schema" (.text "public"),
    .setField "username" (.text "reader"), .setField "password" (.text "secret"),
    .setField "tableNameList" (.text "orders")].map fun op ↦ (op, sampleBackend)

/-- The hypotheses of `loaded_form_iff` hold of a run with a reset in it. -/
theorem loaded_form_of_sampleReset :
    ∃ (o : LastOpening .openRecord sampleReset) (w form : Record), o.id = some 5 ∧
      (session .standard).fetch o.backend 5 = .ok w ∧ entityClass.codec.parse w = .ok form ∧
      ((∀ key, (session .standard).fields.contains key = false →
          ((session .standard).stateAfter sampleReset (session .standard).initial).form.get? key =
            form.get? key) ↔
        (∀ step ∈ o.after, step.1 ≠ .resetForm) ∨ (session .standard).fields.Covers w) := by
  have hclear : ∀ step ∈ sampleReset, ∀ name, step.1 ≠ .clearField name := by
    simp [sampleReset]
  have hloaded : ((session .standard).stateAfter sampleReset
      (session .standard).initial).loaded = true := by rfl
  have hid : ((session .standard).stateAfter sampleReset
      (session .standard).initial).id = some 5 := by rfl
  obtain ⟨o, w, form, ho, hfetch, hparse, hform, -⟩ :=
    (session .standard).loaded_form_iff hclear hloaded hid
  exact ⟨o, w, form, ho, hfetch, hparse, hform⟩

set_option maxRecDepth 8000 in
/-- After a reset the form is still marked as loaded under the id, the group of the stored source is
not in it, and the update that is sent drops the group. -/
theorem group_lost_by_reset :
    ((session .standard).stateAfter sampleReset (session .standard).initial).loaded = true ∧
      ((session .standard).stateAfter sampleReset (session .standard).initial).id = some 5 ∧
      (session .standard).fields.contains "inlongGroupId" = false ∧
      (∃ form, entityClass.codec.parse sampleRecord = .ok form ∧
        form.get? "inlongGroupId" = some (.text "g1")) ∧
      ((session .standard).stateAfter sampleReset
        (session .standard).initial).form.get? "inlongGroupId" = none ∧
      ∃ body, ((session .standard).submit sampleBackend ((session .standard).stateAfter sampleReset
          (session .standard).initial)).result = .ok body ∧
        body.get? "id" = some (.ofInt64 5) ∧ body.contains "inlongGroupId" = false := by
  let body : Record := .ofList [("database", .text "shop"),
    ("decodingPluginName", .text "decoderbufs"), ("hostname", .text "pg.local"),
    ("id", .ofInt64 5), ("password", .text "secret"), ("port", .ofInt64 5432),
    ("schema", .text "public"), ("tableNameList", .ofTexts ["orders"]),
    ("username", .text "reader")]
  have hparse : ∃ form, entityClass.codec.parse sampleRecord = .ok form ∧
      form.get? "inlongGroupId" = some (.text "g1") := by
    refine ⟨sampleRecord.insert "tableNameList" (.text "orders,items"), ?_, ?_⟩ <;> rfl
  have hsubmit : ((session .standard).submit sampleBackend ((session .standard).stateAfter
      sampleReset (session .standard).initial)).result = .ok body := by rfl
  exact ⟨by rfl, by rfl, by rfl, hparse, by rfl, body, hsubmit, by rfl, by rfl⟩

end PostgresSource

end EntityForms
