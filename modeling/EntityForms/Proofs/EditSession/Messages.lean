import EntityForms.Proofs.EditSession.Posting
import EntityForms.Proofs.EditSession.Trail
import EntityForms.Proofs.Form.Validation
import Mathlib.Data.List.DropRight

/-!
# What a session shows of its past

A session shows what was wrong with the fields and, above the form, the last failure. Both are
written by some operations and kept by the others, so what is shown after a run is determined by
some of its operations, each by rules of its own.

* The errors of the fields come from the last time the form was checked, that is, submitted while
  the session was open and loaded. Each input that was accepted since takes away the errors of its
  field. Opening and resetting the form take away all (`reported`).
* The failure is that of the last operation that had one to show or took it away: an opening, a
  reset, or a submission that went beyond the validation (`Performed.banner?`).

These are functions of the trail of the run. That they give what the state holds follows from what
a single operation does to it (`fieldErrors_perform`, `error_perform`), by induction on the run from
its end.
-/

namespace EntityForms

namespace Performed

open EditSession (Operation)

variable (x : Performed Operation)

/-- Whether the operation takes away all that is shown: the form was opened or reset. -/
def clears : Bool :=
  match x.op with
  | .openRecord _ | .resetForm => true
  | _ => false

/-- Whether the operation checks the form: one that is open and loaded was submitted. -/
def checks : Bool :=
  match x.op with
  | .submit => x.before.isReady
  | _ => false

/-- The field that has accepted an input. -/
def entered? : Option String :=
  match x.op, x.outcome.result with
  | .setField name _, .ok _ => some name
  | _, _ => none

/-- What is to be shown above the form from now on, where the operation decides about that: nothing,
or the message of a failure. -/
def banner? : Option (Option String) :=
  match x.op, x.outcome.result with
  | .openRecord _, .ok _ => some none
  | .openRecord _, .error e => some (some ("Failed to load: " ++ e.message))
  | .resetForm, _ => some none
  | .submit, .ok _ => some none
  | .submit, .error (.codec e) => some (some e.message)
  | .submit, .error (.api e) => some (some e.message)
  | _, _ => none

end Performed

namespace EditSession

variable {Wire : Type} (s : EditSession Wire)

/-- What is wrong with the fields of a form. -/
def problems (st : State) : List FieldError := s.fields.validate st.mode st.form s.localizer

/-- The errors that a trail leaves to be shown at the fields. -/
def reported (trail : List (Performed Operation)) : List FieldError :=
  let recent := trail.rtakeWhile fun x ↦ !x.clears
  match (recent.filter Performed.checks).getLast? with
  | none => []
  | some x =>
    let entered := (recent.rtakeWhile fun y ↦ !y.checks).filterMap Performed.entered?
    (s.problems x.before).filter fun e ↦ e.field ∉ entered

/-- The failure that a trail leaves to be shown above the form. -/
def banner (trail : List (Performed Operation)) : Option String :=
  (trail.filterMap Performed.banner?).getLast?.getD none

/-! ## Trails that go on by one operation -/

theorem reported_concat (trail : List (Performed Operation)) (x : Performed Operation) :
    s.reported (trail ++ [x]) =
      if x.clears then []
      else if x.checks then s.problems x.before
      else (s.reported trail).filter fun e ↦ x.entered? ≠ some e.field := by
  unfold reported
  cases hclears : x.clears with
  | true => simp [hclears]
  | false =>
    cases hchecks : x.checks with
    | true => simp [hclears, hchecks]
    | false =>
      simp only [List.rtakeWhile_concat, hclears, hchecks, Bool.not_false, if_true,
        List.filter_append, List.filter_cons, List.filter_nil, List.append_nil,
        List.filterMap_append, Bool.false_eq_true, if_false]
      -- the last check is the same, and the field that is entered joins those entered since
      generalize trail.rtakeWhile (fun y ↦ !y.clears) = recent
      cases (recent.filter Performed.checks).getLast? with
      | none => rfl
      | some y =>
        dsimp only
        rw [List.filter_filter]
        refine List.filter_congr fun e _ ↦ ?_
        cases hentered : x.entered? with
        | none => simp [hentered]
        | some name => simp [hentered, List.mem_append, Bool.and_comm, eq_comm]

theorem banner_concat (trail : List (Performed Operation)) (x : Performed Operation) :
    banner (trail ++ [x]) = x.banner?.getD (banner trail) := by
  rw [banner, banner, List.filterMap_append]
  cases hx : x.banner? with
  | none => simp [hx]
  | some shown => simp [hx]

/-! ## What one operation does -/

variable (backend : Backend) (st : State)

theorem fieldErrors_submit : (s.submit backend st).state.fieldErrors =
    if st.isReady then s.problems st else st.fieldErrors := by
  have hsub := s.submission_submit backend st
  generalize s.submit backend st = o at hsub ⊢
  cases hsub with
  | notOpen hvisible => simp [State.isReady, hvisible]
  | notLoaded _ hloaded => simp [State.isReady, hloaded]
  | invalid hvisible hloaded hvalid => simp [State.isReady, hvisible, hloaded, problems, hvalid]
  | noPayload hvisible hloaded hvalid | refused hvisible hloaded hvalid
  | saved hvisible hloaded hvalid =>
    simp [State.isReady, hvisible, hloaded, problems, hvalid, submitFailure]

theorem fieldErrors_perform (op : Operation) :
    let x : Performed Operation := ⟨op, st, s.perform op backend st⟩
    x.outcome.state.fieldErrors =
      if x.clears then []
      else if x.checks then s.problems st
      else st.fieldErrors.filter fun e ↦ x.entered? ≠ some e.field := by
  cases op with
  | openRecord id =>
    have hopening := s.opening_openRecord backend st id
    rw [perform]
    generalize s.openRecord backend id st = o at hopening ⊢
    cases hopening <;> rfl
  | setField name input =>
    rw [perform, setField_eq]
    cases s.fields.get? name with
    | some f =>
      change st.fieldErrors.filter (fun e ↦ e.field != name) =
        st.fieldErrors.filter fun e ↦ some name ≠ some e.field
      refine List.filter_congr fun e _ ↦ ?_
      simp [bne, beq_eq_decide, eq_comm (a := name)]
    | none => simp [Performed.clears, Performed.checks, Performed.entered?, Outcome.map,
        Except.map]
  | clearField | close =>
    simp [perform, Performed.clears, Performed.checks, Performed.entered?, clearField, close]
  | resetForm => rfl
  | submit =>
    have herrors := s.fieldErrors_submit backend st
    simpa [perform, Performed.clears, Performed.checks, Performed.entered?, Outcome.map]
      using herrors

theorem error_perform (op : Operation) :
    let x : Performed Operation := ⟨op, st, s.perform op backend st⟩
    x.outcome.state.error = x.banner?.getD st.error := by
  cases op with
  | openRecord id =>
    have hopening := s.opening_openRecord backend st id
    rw [perform]
    generalize s.openRecord backend id st = o at hopening ⊢
    cases hopening <;> rfl
  | setField name input =>
    rw [perform, setField_eq]
    cases s.fields.get? name <;> rfl
  | clearField | close | resetForm => rfl
  | submit =>
    have hsub := s.submission_submit backend st
    rw [perform]
    generalize s.submit backend st = o at hsub ⊢
    cases hsub with
    | notOpen | notLoaded | invalid | refused | saved => rfl
    | noPayload _ _ _ hpayload =>
      obtain ⟨cause, rfl⟩ := exists_codec_of_payload_eq_error hpayload
      rfl

/-- A submission decides about what is shown above the form exactly when it goes beyond the
validation. -/
theorem isSome_banner?_submit :
    (Performed.banner? ⟨.submit, st, s.perform .submit backend st⟩).isSome ↔
      st.isReady ∧ s.problems st = [] := by
  have hsub := s.submission_submit backend st
  rw [perform]
  generalize s.submit backend st = o at hsub ⊢
  cases hsub with
  | notOpen hvisible => simp [Performed.banner?, Outcome.map, Except.map, State.isReady, hvisible]
  | notLoaded _ hloaded =>
    simp [Performed.banner?, Outcome.map, Except.map, State.isReady, hloaded]
  | invalid hvisible hloaded hvalid herrors =>
    simp [Performed.banner?, Outcome.map, Except.map, problems, hvalid, herrors]
  | noPayload hvisible hloaded hvalid hpayload =>
    obtain ⟨cause, rfl⟩ := exists_codec_of_payload_eq_error hpayload
    simp [Performed.banner?, Outcome.map, Except.map, submitFailure, State.isReady, hvisible,
      hloaded, problems, hvalid]
  | refused hvisible hloaded hvalid | saved hvisible hloaded hvalid =>
    simp [Performed.banner?, Outcome.map, Except.map, submitFailure, State.isReady, hvisible,
      hloaded, problems, hvalid]

/-! ## Runs -/

/-- What is shown after a run is what its trail leaves to be shown. -/
theorem shown_stateAfter (ops : List (Operation × Backend)) :
    (s.stateAfter ops s.initial).fieldErrors = s.reported (s.trail ops s.initial) ∧
      (s.stateAfter ops s.initial).error = banner (s.trail ops s.initial) := by
  induction ops using List.reverseRecOn with
  | nil => exact ⟨rfl, rfl⟩
  | append_singleton ops step ih =>
    obtain ⟨op, backend⟩ := step
    rw [trail_concat, stateAfter_append, stateAfter_cons, stateAfter_nil, reported_concat,
      banner_concat, ← ih.1, ← ih.2]
    exact ⟨s.fieldErrors_perform backend _ op, s.error_perform backend _ op⟩

theorem fieldErrors_sublist (ops : List (Operation × Backend)) :
    ((s.stateAfter ops s.initial).fieldErrors.map FieldError.field).Sublist
      ((s.fields.formFields (s.stateAfter ops s.initial).mode).map Field.name) := by
  refine s.stateAfter_induct (P := fun st ↦ (st.fieldErrors.map FieldError.field).Sublist
    ((s.fields.formFields st.mode).map Field.name)) ?_ (List.nil_sublist _)
  rintro ⟨op, backend⟩ - st hst
  have herrors := s.fieldErrors_perform backend st op
  dsimp only at herrors ⊢
  rw [herrors]
  split
  case isTrue => exact List.nil_sublist _
  case isFalse hclears =>
    -- without an opening the form stays in its mode
    have hmode : (s.perform op backend st).state.mode = st.mode := by
      rw [State.mode, State.mode, (s.perform_frame backend st ?_).1]
      rintro id rfl
      exact hclears rfl
    rw [hmode]
    split
    case isTrue =>
      rw [problems, FieldTable.map_field_validate]
      exact List.filter_sublist.map Field.name
    case isFalse => exact (List.filter_sublist.map FieldError.field).trans hst

/--
What a session shows after any run from its start. At the fields these are the errors of the last
check since the form was opened or reset, less those of the fields that have been entered since; so
no field occurs twice, and they are fields that the form shows, in their order. Above the form it
is the failure of the last operation that decides about it: an opening, a reset, or a submission
that goes beyond the validation. Any other operation leaves what is shown there.
-/
theorem shown_of_trail (ops : List (Operation × Backend)) :
    let st := s.stateAfter ops s.initial
    let trail := s.trail ops s.initial
    st.fieldErrors = s.reported trail ∧
      (st.fieldErrors.map FieldError.field).Nodup ∧
      (st.fieldErrors.map FieldError.field).Sublist
        ((s.fields.formFields st.mode).map Field.name) ∧
      st.error = banner trail ∧
      ∀ x ∈ trail, (x.banner? = none → x.outcome.state.error = x.before.error) ∧
        (x.op = .submit → (x.banner?.isSome ↔ x.before.isReady ∧ s.problems x.before = [])) := by
  intro st trail
  have hshown := s.shown_stateAfter ops
  have hsublist := s.fieldErrors_sublist ops
  refine ⟨hshown.1, ?_, hsublist, hshown.2, fun x hx ↦ ?_⟩
  · exact (s.fields.nodup_map_name_formFields st.mode).sublist hsublist
  · obtain ⟨op, before, outcome⟩ := x
    obtain ⟨backend, houtcome⟩ := exists_of_mem_trailOf hx
    dsimp only at houtcome
    subst houtcome
    constructor
    · intro hkept
      have herror := s.error_perform backend before op
      dsimp only at herror hkept ⊢
      rw [herror, hkept, Option.getD_none]
    · rintro rfl
      exact s.isSome_banner?_submit backend before

end EditSession

namespace UserAccount

/-- An account is to be registered, after one that could not be loaded. -/
def sampleForm : List (EditSession.Operation × Backend) :=
  [.openRecord (some 9), .openRecord none].map fun op ↦ (op, sampleBackend)

set_option maxRecDepth 8000 in
/-- The empty form is submitted, and then one field of it is entered: the errors of the two others
stay, and nothing is shown above the form. -/
theorem shown_of_sampleForm :
    let s := session .standard
    let opened := s.stateAfter sampleForm s.initial
    let ops := sampleForm ++
      [(.submit, sampleBackend), (.setField "username" (.text "ann"), sampleBackend)]
    let x : Performed EditSession.Operation :=
      ⟨.submit, opened, s.perform .submit sampleBackend opened⟩
    x ∈ s.trail ops s.initial ∧ x.banner? = none ∧
      x.outcome.state.error = x.before.error ∧
      ¬ (x.before.isReady ∧ s.problems x.before = []) ∧
      (s.reported (s.trail ops s.initial)).map FieldError.field = ["password", "validDays"] ∧
      EditSession.banner (s.trail ops s.initial) = none := by
  intro s opened ops x
  obtain ⟨hreported, -, -, hbanner, hops⟩ := s.shown_of_trail ops
  have hx : x ∈ s.trail ops s.initial := List.mem_cons_of_mem _ (List.mem_cons_of_mem _
    List.mem_cons_self)
  have hnone : x.banner? = none := by
    subst x opened s
    rfl
  refine ⟨hx, hnone, (hops x hx).1 hnone, ?_, ?_, ?_⟩
  · rw [← (hops x hx).2 rfl, hnone]
    exact Bool.false_ne_true
  · rw [← hreported]
    subst ops s
    rfl
  · rw [← hbanner]
    subst ops s
    rfl

end UserAccount

end EntityForms
