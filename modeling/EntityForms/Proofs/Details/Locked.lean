import EntityForms.Proofs.Details.History
import EntityForms.Proofs.EditSession.Update
import EntityForms.Proofs.Wire.Acceptance

/-!
# Locked sources

A source is locked while its status is 101. Three places look at the status. The details view
refuses to save, and the form disables every control; both read the status loosely, a number or a
text that spells one. The backend reads it strictly, and then only a number counts.

The entity does not declare the status, so nothing that a user enters changes it, and it is sent as
it was loaded. Hence a source that was loaded as locked stays locked until the next load, whatever
is tried in between. As the loose reading accepts whatever the strict one does, no record that the
backend would take for a locked source is ever posted. And every control of the form asks the same
question of the same record, so the form is read-only exactly when the source is locked
(`locked_source_never_saved`).
-/

namespace EntityForms

/-! ## The loose reading of an integer -/

theorem Json.looseInt64?_eq_some_iff {v : Json} {n : Int64} :
    v.looseInt64? = some n ↔
      v = .ofInt64 n ∨ ∃ s, v = .text s ∧ Text.readInt64? (Text.trim s.toList) = some n := by
  cases v with
  | number m => simp [looseInt64?, Number.int64?_eq_some_iff, ofInt64]
  | text s => simp [looseInt64?, ofInt64]
  | null | bool | list | object => simp [looseInt64?, ofInt64]

/-! ## Forms that cannot be changed -/

theorem Field.disabled_renderOptions {f : Field} {options : Record → RenderOptions}
    (h : f.dynamic = some options) (r : Record) :
    (f.renderOptions r).disabled = (options r).disabled := by
  simp [renderOptions, h]

theorem FieldTable.isReadOnly_form_iff {t : FieldTable} {mode : Mode} {r : Record} {l : Localizer} :
    (t.form mode r l).isReadOnly = true ↔
      t.formFields mode ≠ [] ∧ ∀ f ∈ t.formFields mode, (f.renderOptions r).disabled = true := by
  simp [Form.isReadOnly, form, Field.formControl]

/-! ## Details views with a lock -/

namespace Details

open EditSession (Outcome State)

variable {Wire : Type} {d : Details Wire} {backend : Backend} {st : State} {key : String}

theorem save_of_locked (h : d.isLocked st.form = true) :
    d.save backend st = { result := .error .locked, state := st } := by
  rw [save, if_pos h]

theorem not_locked_of_post {op : Operation} {url : String} {body : Record}
    {answer : Except ApiError Json} (h : .post url body answer ∈ (d.perform op backend st).trace) :
    d.isLocked st.form = false := by
  obtain ⟨rfl, -⟩ := post_mem_perform h
  refine Bool.eq_false_iff.mpr fun hlocked ↦ ?_
  rw [perform, save_of_locked hlocked] at h
  cases h

theorem get?_form_perform (hkey : d.session.fields.contains key = false) {op : Operation}
    (hload : ∀ k, op ≠ .load k) : (d.perform op backend st).state.form.get? key =
      st.form.get? key := by
  cases op with
  | load k => exact absurd rfl (hload k)
  | save =>
    rw [perform, Outcome.map, (d.save_frame backend st).2.2]
  | cancel => rfl
  | setField name input =>
    rw [perform, Outcome.map]
    by_cases hname : name = key
    · subst hname
      rw [EditSession.get?_form_setField_self, FieldTable.get?_eq_none_iff.mpr hkey]
      rfl
    · exact EditSession.get?_form_setField_of_ne d.session st hname input

theorem get?_form_stateAfter (hkey : d.session.fields.contains key = false)
    {ops : List (Operation × Backend)} (hops : ∀ step ∈ ops, ∀ k, step.1 ≠ .load k) :
    (d.stateAfter ops st).form.get? key = st.form.get? key := by
  refine d.stateAfter_induct (P := fun st' ↦ st'.form.get? key = st.form.get? key) ?_ rfl
  intro step hstep st' hst'
  rw [← hst']
  exact get?_form_perform hkey (hops step hstep)

theorem get?_form_hideSecret (hsecret : d.secret ≠ some key) :
    (d.hideSecret st).form.get? key = st.form.get? key := by
  rw [hideSecret]
  split
  case h_1 field _ hfield =>
    have hne : key ≠ field := fun heq ↦ hsecret (heq ▸ hfield)
    exact (Dictionary.get?_erase _ _ _).trans (if_neg hne)
  case h_2 => rfl

theorem get?_form_load {k : Int64} {w : Record} (hfetch : d.session.fetch backend k = .ok w)
    (hload : (d.load backend (some k) st).result = .ok ()) (hsecret : d.secret ≠ some key)
    (htransform : d.session.entity.codec.lastTransform? key = none) :
    (d.load backend (some k) st).state.form.get? key = w.get? key := by
  have hopen := (d.load_frame backend st (some k)).1.symm.trans hload
  obtain ⟨w', hw', hparse⟩ := EditSession.form_openRecord_some hopen
  obtain rfl : w = w' := Except.ok.inj (hfetch.symm.trans hw')
  rw [← Codec.get?_parse_of_none hparse htransform, load, hopen]
  exact get?_form_hideSecret hsecret

end Details

/-! ## Sources -/

namespace PostgresSource

variable {r body : Record}

theorem isLocked_congr {r' : Record} (h : r.get? "status" = r'.get? "status") :
    isLocked r = isLocked r' := by
  rw [isLocked, Record.int64?, h, isLocked, Record.int64?]

/-- A source is locked by the number 101 and by a text that spells it. -/
theorem isLocked_iff : isLocked r = true ↔
    r.get? "status" = some (.ofInt64 lockedStatus) ∨ ∃ s, r.get? "status" = some (.text s) ∧
      Text.readInt64? (Text.trim s.toList) = some lockedStatus := by
  rw [isLocked, beq_iff_eq, Record.int64?]
  cases r.get? "status" with
  | none => simp
  | some v => simp [Json.looseInt64?_eq_some_iff]

/-- A record that the backend reads as a locked source is locked. -/
theorem isLocked_of_decodeWire {source : PostgresSource}
    (h : entityClass.decodeWire body = .ok source) (hstatus : source.status = some lockedStatus) :
    isLocked body = true := by
  obtain ⟨-, hoptional, -⟩ := read_eq_ok_iff.mp (Except.mapError_eq_ok_iff.mp h)
  obtain ⟨v, hget, hv⟩ := Record.get?_of_optional (hoptional.trans (congrArg _ hstatus))
  rw [Reader.int64_eq_ok_iff] at hv
  exact isLocked_iff.mpr (.inl (hget.trans (congrArg _ hv)))

variable (config : Config)

theorem dynamic_of_mem_fields {f : Field} (h : f ∈ fields) : f.dynamic = some renderOptions := by
  simp only [fields, requiredText, List.mem_cons, List.not_mem_nil, or_false] at h
  rcases h with rfl | rfl | rfl | rfl | rfl | rfl | rfl | rfl | rfl <;> rfl

theorem formFields_session (mode : Mode) : (session config).fields.formFields mode = fields := by
  cases mode <;> rfl

theorem isReadOnly_formModel (st : EditSession.State) :
    ((session config).formModel st).isReadOnly = isLocked st.form := by
  rw [Bool.eq_iff_iff, EditSession.formModel, FieldTable.isReadOnly_form_iff, formFields_session]
  have hdisabled : ∀ f ∈ fields, (f.renderOptions st.form).disabled = isLocked st.form :=
    fun f hf ↦ Field.disabled_renderOptions (dynamic_of_mem_fields hf) st.form
  constructor
  · rintro ⟨-, hall⟩
    obtain ⟨f, hf⟩ := List.exists_mem_of_ne_nil fields (by simp [fields])
    rw [← hdisabled f hf, hall f hf]
  · exact fun hlocked ↦ ⟨by simp [fields], fun f hf ↦ (hdisabled f hf).trans hlocked⟩

/--
Sources under a lock, in a run of their details view. A source that was loaded as locked cannot be
saved until the next load: saving is refused, changes nothing and asks nothing of the backend.
Nothing that is posted reads as a locked source. And at any time the form is read-only exactly when
it holds a locked source.
-/
theorem locked_source_never_saved (ops : List (Details.Operation × Backend)) :
    let view := details (session config)
    let st := view.stateAfter ops (session config).initial
    (∀ (o : LastOpening Details.Operation.load ops) (k : Int64) (w : Record), o.id = some k →
      (session config).fetch o.backend k = .ok w → (view.loaded o).result = .ok () →
      isLocked w = true →
      ∀ backend, view.perform .save backend st = { result := .error .locked, state := st }) ∧
    (∀ op backend url body answer source,
      .post url body answer ∈ (view.perform op backend st).trace →
      entityClass.decodeWire body = .ok source → source.status ≠ some lockedStatus) ∧
    isLocked st.form = (view.session.formModel st).isReadOnly := by
  intro view st
  refine ⟨?_, ?_, (isReadOnly_formModel config st).symm⟩
  · intro o k w hid hfetch hload hlocked backend
    rw [Details.loaded, hid] at hload
    have hstatus : st.form.get? "status" = w.get? "status" := by
      have hafter : st = view.stateAfter o.after (view.loaded o).state :=
        view.stateAfter_eq_after o
      rw [hafter, Details.get?_form_stateAfter rfl o.last, Details.loaded, hid]
      exact Details.get?_form_load hfetch hload nofun rfl
    have hst : view.isLocked st.form = true := (isLocked_congr hstatus).trans hlocked
    rw [Details.perform, Details.save_of_locked hst]
    rfl
  · intro op backend url body answer source hpost hread hsource
    have hopen : isLocked st.form = false := Details.not_locked_of_post hpost
    obtain ⟨-, hpost'⟩ := Details.post_mem_perform hpost
    obtain ⟨-, -, hpayload, -⟩ := EditSession.post_mem_submit hpost'
    -- the status is not declared and not transformed, so it is sent as the form holds it
    obtain ⟨wire, hwire, hget⟩ := EditSession.get?_payload hpayload
    have hstatus : body.get? "status" = st.form.get? "status" :=
      (hget "status" (.inl (by decide))).trans (Codec.get?_stringify_of_none hwire rfl)
    rw [← isLocked_congr hstatus, isLocked_of_decodeWire hread hsource] at hopen
    cases hopen

/-- A stored source that is locked by a text. -/
def lockedRecord : Record := sampleRecord.insert "status" (.text " 101 ")

/-- A backend that gives out the locked source and accepts what it is sent. -/
def lockedBackend : Backend where
  get _ := .ok lockedRecord.toJson
  post _ _ := .ok .null

/-- The locked source is loaded, and there are attempts to unlock, to change and to save it. -/
def sampleAttempts : List (Details.Operation × Backend) :=
  [.load none, .load (some 5), .setField "status" (.ofInt64 130),
    .setField "hostname" (.text "pg.other"), .save, .cancel].map fun op ↦ (op, lockedBackend)

/-- After all these attempts the source still cannot be saved. -/
theorem save_refused_after_sampleAttempts :
    let view := details (session .standard)
    let st := view.stateAfter sampleAttempts (session .standard).initial
    isLocked lockedRecord = true ∧
      view.perform .save lockedBackend st = { result := .error .locked, state := st } := by
  let o : LastOpening Details.Operation.load sampleAttempts :=
    { before := [(.load none, lockedBackend)]
      id := some 5
      backend := lockedBackend
      after := [(.setField "status" (.ofInt64 130), lockedBackend),
        (.setField "hostname" (.text "pg.other"), lockedBackend), (.save, lockedBackend),
        (.cancel, lockedBackend)]
      run_eq := rfl
      last := by simp }
  have hlocked : isLocked lockedRecord = true := by rfl
  have hfetch : (session .standard).fetch o.backend 5 = .ok lockedRecord :=
    EditSession.fetch_of_get rfl
  have hload : ((details (session .standard)).loaded o).result = .ok () := by rfl
  exact ⟨hlocked, (locked_source_never_saved .standard sampleAttempts).1 o 5 lockedRecord rfl hfetch
    hload hlocked lockedBackend⟩

end PostgresSource

end EntityForms
