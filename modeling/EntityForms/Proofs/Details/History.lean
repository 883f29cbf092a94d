import EntityForms.Details.Run
import EntityForms.Proofs.EditSession.History

/-!
# Runs of a details view

A details view works its session: loading opens it and hides the secret, saving submits it and
closes it where that succeeds. What the operations of the session do carries over; here it is said
for the operations of the view and for its runs, which are split at the last load.
-/

namespace EntityForms.Details

open EditSession (Outcome State)

variable {Wire : Type} (d : Details Wire) (backend : Backend) (st : State)

/-! ## What one operation does -/

theorem hideSecret_frame : (d.hideSecret st).id = st.id ∧ (d.hideSecret st).loaded = st.loaded := by
  rw [hideSecret]
  split <;> exact ⟨rfl, rfl⟩

/-- Loading is opening, but for the secret. -/
theorem load_frame (id : Option Int64) :
    (d.load backend id st).result = (d.session.openRecord backend id st).result ∧
      (d.load backend id st).trace = (d.session.openRecord backend id st).trace ∧
      (d.load backend id st).state.id = id ∧
      (d.load backend id st).state.loaded = (d.session.openRecord backend id st).state.loaded := by
  have hid := d.session.id_openRecord backend st id
  rw [load]
  split
  case h_1 hok =>
    obtain ⟨hid', hloaded⟩ := d.hideSecret_frame (d.session.openRecord backend id st).state
    exact ⟨rfl, rfl, hid'.trans hid, hloaded⟩
  case h_2 => exact ⟨rfl, rfl, hid, rfl⟩

theorem loaded_load (id : Option Int64) :
    (d.load backend id st).state.loaded = true ↔ (d.load backend id st).result = .ok () := by
  obtain ⟨hresult, -, -, hloaded⟩ := d.load_frame backend st id
  rw [hresult, hloaded, d.session.loaded_openRecord]

theorem get?_secret_load {k : Int64} {field : String} (hsecret : d.secret = some field)
    (h : (d.load backend (some k) st).result = .ok ()) :
    (d.load backend (some k) st).state.form.get? field = none := by
  have hid := d.session.id_openRecord backend st (some k)
  have hopened := (d.load_frame backend st (some k)).1.symm.trans h
  rw [load]
  split
  case h_1 =>
    rw [hideSecret, State.mode, hid, hsecret]
    exact (Dictionary.get?_erase _ _ _).trans (if_pos rfl)
  case h_2 e he =>
    rw [he] at hopened
    cases hopened

theorem save_frame : (d.save backend st).state.id = st.id ∧
    (d.save backend st).state.loaded = st.loaded ∧ (d.save backend st).state.form = st.form := by
  have hid := d.session.id_submit backend st
  have hloaded := d.session.loaded_submit backend st
  have hform := d.session.form_submit backend st
  rw [save]
  split
  case isTrue => exact ⟨rfl, rfl, rfl⟩
  case isFalse =>
    dsimp only
    split
    case h_1 => exact ⟨hid, hloaded, hform⟩
    case h_2 => exact ⟨hid, hloaded, hform⟩

variable {d backend st} in
theorem submit_of_save {payload : Record} (h : (d.save backend st).result = .ok payload) :
    (d.session.submit backend st).result = .ok payload := by
  rw [save] at h
  split at h
  case isTrue => cases h
  case isFalse =>
    dsimp only at h
    split at h
    case h_1 => exact h
    case h_2 => exact h

theorem mem_trace_save {e : Event} (h : e ∈ (d.save backend st).trace) :
    e ∈ (d.session.submit backend st).trace := by
  rw [save] at h
  split at h
  case isTrue => cases h
  case isFalse =>
    dsimp only at h
    split at h
    case h_1 => exact h
    case h_2 => exact h

variable {d backend st} in
theorem post_mem_perform {op : Operation} {url : String} {body : Record}
    {answer : Except ApiError Json} (h : .post url body answer ∈ (d.perform op backend st).trace) :
    op = .save ∧ .post url body answer ∈ (d.session.submit backend st).trace := by
  cases op with
  | load id =>
    rw [perform, Outcome.map, (d.load_frame backend st id).2.1] at h
    exact absurd h (d.session.not_post_mem_openRecord backend st id)
  | setField name input =>
    rw [perform, Outcome.map, (d.session.setField_frame st name input).2.2.2] at h
    cases h
  | save => exact ⟨rfl, d.mem_trace_save backend st h⟩
  | cancel => cases h

theorem perform_frame {op : Operation} (h : ∀ k, op ≠ .load k) :
    (d.perform op backend st).state.id = st.id ∧
      (d.perform op backend st).state.loaded = st.loaded := by
  cases op with
  | load k => exact absurd rfl (h k)
  | setField name input =>
    obtain ⟨hid, hloaded, -⟩ := d.session.setField_frame st name input
    exact ⟨hid, hloaded⟩
  | save =>
    obtain ⟨hid, hloaded, -⟩ := d.save_frame backend st
    exact ⟨hid, hloaded⟩
  | cancel => exact ⟨rfl, rfl⟩

/-! ## Runs -/

theorem stateAfter_induct {P : State → Prop} {ops : List (Operation × Backend)}
    (hstep : ∀ step ∈ ops, ∀ st, P st → P (d.perform step.1 step.2 st).state) {st : State}
    (hst : P st) : P (d.stateAfter ops st) :=
  List.foldlRecOn ops _ hst fun st hst step hmem ↦ hstep step hmem st hst

variable {d} {ops : List (Operation × Backend)} {st : State}

theorem id_and_loaded_stateAfter (hops : ∀ step ∈ ops, ∀ k, step.1 ≠ .load k) :
    (d.stateAfter ops st).id = st.id ∧ (d.stateAfter ops st).loaded = st.loaded := by
  refine d.stateAfter_induct (P := fun st' ↦ st'.id = st.id ∧ st'.loaded = st.loaded) ?_ ⟨rfl, rfl⟩
  intro step hstep st' ⟨hid, hloaded⟩
  obtain ⟨hid', hloaded'⟩ := d.perform_frame step.2 st' (hops step hstep)
  exact ⟨hid'.trans hid, hloaded'.trans hloaded⟩

/-- What comes of the last load of a run. -/
def loaded (d : Details Wire) (o : LastOpening Operation.load ops) : Outcome Unit :=
  d.load o.backend o.id (d.stateAfter o.before d.session.initial)

theorem stateAfter_eq_after (o : LastOpening Operation.load ops) :
    d.stateAfter ops d.session.initial = d.stateAfter o.after (d.loaded o).state := by
  calc d.stateAfter ops d.session.initial
      = d.stateAfter (o.before ++ (.load o.id, o.backend) :: o.after) d.session.initial := by
        rw [← o.run_eq]
    _ = d.stateAfter o.after (d.loaded o).state := by
        rw [stateAfter_append, stateAfter_cons]
        rfl

/-- A form that is loaded after a run was loaded by the last load. -/
theorem result_of_loaded (o : LastOpening Operation.load ops)
    (h : (d.stateAfter ops d.session.initial).loaded = true) : (d.loaded o).result = .ok () := by
  rw [d.stateAfter_eq_after o, (id_and_loaded_stateAfter o.last).2] at h
  exact (d.loaded_load o.backend _ o.id).mp h

end EntityForms.Details
