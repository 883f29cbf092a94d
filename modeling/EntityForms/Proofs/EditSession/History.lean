import EntityForms.Proofs.EditSession.Step

/-!
# What a run leaves behind

Opening a session overwrites its whole state, so the state after a run is determined by the last
opening and by the operations since. `LastOpening` is a run split at that place; it is the form in
which the theorems about runs speak of "the record that is open". The split is stated for any kind
of operation, since a details view has runs of its own.

A form that is loaded always has a last opening that succeeded
(`exists_lastOpening_of_loaded`), and the session still edits the record of that opening.
-/

namespace EntityForms

/-! ## The last opening of a run -/

/-- A run split at the last operation that opens a record. -/
structure LastOpening {Op : Type} (opening : Option Int64 → Op) (ops : List (Op × Backend)) where
  before : List (Op × Backend)
  /-- The id of the record that is opened; a new record has none. -/
  id : Option Int64
  /-- The backend as it answers to the opening. -/
  backend : Backend
  after : List (Op × Backend)
  run_eq : ops = before ++ (opening id, backend) :: after
  last : ∀ step ∈ after, ∀ k, step.1 ≠ opening k

theorem LastOpening.forall_ne_or_nonempty {Op : Type} (opening : Option Int64 → Op)
    (ops : List (Op × Backend)) :
    (∀ step ∈ ops, ∀ k, step.1 ≠ opening k) ∨ Nonempty (LastOpening opening ops) := by
  induction ops with
  | nil => exact .inl fun step hstep ↦ absurd hstep List.not_mem_nil
  | cons step ops ih =>
    -- the first operation is the last opening only where none follows
    rcases ih with hlater | ⟨⟨o⟩⟩
    · by_cases hstep : ∃ k, step.1 = opening k
      · obtain ⟨k, hk⟩ := hstep
        refine .inr ⟨⟨[], k, step.2, ops, ?_, hlater⟩⟩
        rw [← hk]
        rfl
      · left
        intro step' hmem k
        rcases List.mem_cons.mp hmem with rfl | hmem
        · exact fun hk ↦ hstep ⟨k, hk⟩
        · exact hlater step' hmem k
    · refine .inr ⟨⟨step :: o.before, o.id, o.backend, o.after, ?_, o.last⟩⟩
      rw [List.cons_append, ← o.run_eq]

namespace EditSession

variable {Wire : Type} (s : EditSession Wire)

/-! ## Runs without an opening -/

/-- What every step of a run preserves holds after the run. -/
theorem stateAfter_induct {P : State → Prop} {ops : List (Operation × Backend)}
    (hstep : ∀ step ∈ ops, ∀ st, P st → P (s.perform step.1 step.2 st).state) {st : State}
    (hst : P st) : P (s.stateAfter ops st) :=
  List.foldlRecOn ops _ hst fun st hst step hmem ↦ hstep step hmem st hst

variable {s} {ops : List (Operation × Backend)} {st : State}

theorem id_and_loaded_stateAfter (hops : ∀ step ∈ ops, ∀ k, step.1 ≠ .openRecord k) :
    (s.stateAfter ops st).id = st.id ∧ (s.stateAfter ops st).loaded = st.loaded := by
  refine s.stateAfter_induct (P := fun st' ↦ st'.id = st.id ∧ st'.loaded = st.loaded) ?_ ⟨rfl, rfl⟩
  intro step hstep st' ⟨hid, hloaded⟩
  obtain ⟨hid', hloaded'⟩ := s.perform_frame step.2 st' (hops step hstep)
  exact ⟨hid'.trans hid, hloaded'.trans hloaded⟩

theorem not_closed_of_visible (hops : ∀ step ∈ ops, ∀ k, step.1 ≠ .openRecord k)
    (h : (s.stateAfter ops st).visible = true) :
    st.visible = true ∧ ∀ step ∈ ops, step.1 ≠ .close := by
  induction ops generalizing st with
  | nil => exact ⟨h, fun step hstep ↦ absurd hstep List.not_mem_nil⟩
  | cons step ops ih =>
    rw [stateAfter_cons] at h
    obtain ⟨hvisible, hclose⟩ := ih (fun step' hmem ↦ hops step' (List.mem_cons_of_mem _ hmem)) h
    obtain ⟨hst, hstep⟩ := s.visible_perform step.2 st (hops step List.mem_cons_self) hvisible
    exact ⟨hst, List.forall_mem_cons.mpr ⟨hstep, hclose⟩⟩

/-! ## Runs from the start -/

/-- What comes of the last opening of a run. -/
def opened (s : EditSession Wire) (o : LastOpening Operation.openRecord ops) : Outcome Unit :=
  s.openRecord o.backend o.id (s.stateAfter o.before s.initial)

theorem stateAfter_eq_after (o : LastOpening Operation.openRecord ops) :
    s.stateAfter ops s.initial = s.stateAfter o.after (s.opened o).state := by
  calc s.stateAfter ops s.initial
      = s.stateAfter (o.before ++ (.openRecord o.id, o.backend) :: o.after) s.initial := by
        rw [← o.run_eq]
    _ = s.stateAfter o.after (s.opened o).state := by
        rw [stateAfter_append, stateAfter_cons]
        rfl

theorem id_stateAfter (o : LastOpening Operation.openRecord ops) :
    (s.stateAfter ops s.initial).id = o.id := by
  rw [s.stateAfter_eq_after o, (id_and_loaded_stateAfter o.last).1]
  exact s.id_openRecord o.backend _ o.id

/-- A loaded form is the work of the last opening. -/
theorem exists_lastOpening_of_loaded (h : (s.stateAfter ops s.initial).loaded = true) :
    ∃ o : LastOpening Operation.openRecord ops, (s.opened o).result = .ok () := by
  rcases LastOpening.forall_ne_or_nonempty Operation.openRecord ops with hops | ⟨⟨o⟩⟩
  · rw [(id_and_loaded_stateAfter hops).2] at h
    cases h
  · refine ⟨o, ?_⟩
    rw [s.stateAfter_eq_after o, (id_and_loaded_stateAfter o.last).2] at h
    exact (s.loaded_openRecord o.backend _ o.id).mp h

end EditSession

end EntityForms
