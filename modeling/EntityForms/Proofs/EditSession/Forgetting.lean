import EntityForms.Proofs.EditSession.Posting

/-!
# Opening forgets the past

Opening a session overwrites every part of its state, on every way in which it can end: with the
record, with the initial values of a new one, or with the initial values and the failure that is
shown. So the state before it leaves no trace, neither in what comes of the opening nor in anything
that follows (`run_eq_of_openRecord`).

That is a statement about two runs, and the backends of the two need not be the same. An operation
learns of its backend only what it is answered, and its trace records the answer. A second backend
that gives the recorded answers (`Backend.Answers`) is as good as the first, whatever it would
answer to other requests, and so it is over a whole run (`AnsweredAlike`).
-/

namespace EntityForms

/-- What a trace has recorded is what the backend would answer. -/
def Backend.Answers (backend : Backend) : Event → Prop
  | .get url answer => backend.get url = answer
  | .post url body answer => backend.post url body = answer
  | .log _ _ => True

namespace EditSession

variable {Wire : Type} {s : EditSession Wire} {backend backend' : Backend} {st : State}

/-! ## One operation -/

theorem openRecord_eq (s : EditSession Wire) (backend : Backend) (id : Option Int64)
    (st st' : State) : s.openRecord backend id st = s.openRecord backend id st' :=
  (s.opening_openRecord backend st id).eq (s.opening_openRecord backend st' id)

theorem openRecord_congr {id : Option Int64}
    (h : ∀ e ∈ (s.openRecord backend id st).trace, backend'.Answers e) :
    s.openRecord backend' id st = s.openRecord backend id st := by
  cases id with
  | none => rfl
  | some k =>
    have hget : backend'.get (s.url (s.entity.endpoints.getPath k)) =
        backend.get (s.url (s.entity.endpoints.getPath k)) :=
      h _ ((s.get_mem_openRecord_iff backend st).mpr ⟨k, rfl, rfl, rfl⟩)
    simp only [openRecord, hget]

theorem send_congr (h : ∀ e ∈ (s.send backend st).trace, backend'.Answers e) :
    s.send backend' st = s.send backend st := by
  cases hpayload : s.payload st with
  | error e => simp only [send, hpayload]
  | ok body =>
    have hpost : backend'.post (s.url (s.entity.endpoints.savePath st.id)) body =
        backend.post (s.url (s.entity.endpoints.savePath st.id)) body := by
      refine h (.post _ body _) ?_
      simp only [send, hpayload]
      split <;> simp [submitFailure]
    simp only [send, hpayload, hpost]

theorem submit_congr (h : ∀ e ∈ (s.submit backend st).trace, backend'.Answers e) :
    s.submit backend' st = s.submit backend st := by
  unfold submit at h ⊢
  split
  case isTrue => rfl
  case isFalse hvisible =>
    rw [if_neg hvisible] at h
    split
    case isTrue => rfl
    case isFalse hloaded =>
      rw [if_neg hloaded] at h
      split
      case h_1 hvalid =>
        rw [hvalid] at h
        exact send_congr h
      case h_2 => rfl

/-- An operation depends on its backend only through the answers in its trace. -/
theorem perform_congr {op : Operation}
    (h : ∀ e ∈ (s.perform op backend st).trace, backend'.Answers e) :
    s.perform op backend' st = s.perform op backend st := by
  cases op with
  | openRecord id => rw [perform, openRecord_congr h, ← perform]
  | setField | clearField | resetForm | close => rfl
  | submit => rw [perform, submit_congr h, ← perform]

theorem answers_of_mem_requestTrace {k : Int64} {e : Event} (h : e ∈ s.requestTrace backend k) :
    backend.Answers e := by
  cases h with
  | head => exact trivial
  | tail _ h =>
    obtain rfl := List.mem_singleton.mp h
    exact rfl

theorem answers_of_mem_openRecord {id : Option Int64} {e : Event}
    (h : e ∈ (s.openRecord backend id st).trace) : backend.Answers e := by
  have hopening := s.opening_openRecord backend st id
  generalize s.openRecord backend id st = o at h hopening
  cases hopening with
  | fresh => cases h
  | loaded => exact answers_of_mem_requestTrace h
  | failed =>
    rcases List.mem_append.mp h with h | h
    · exact answers_of_mem_requestTrace h
    · obtain rfl := List.mem_singleton.mp h
      exact trivial

theorem answers_of_mem_submit {e : Event} (h : e ∈ (s.submit backend st).trace) :
    backend.Answers e := by
  have hsub := s.submission_submit backend st
  generalize s.submit backend st = o at h hsub
  cases hsub with
  | notOpen | notLoaded | invalid => cases h
  | noPayload =>
    obtain rfl := List.mem_singleton.mp h
    exact trivial
  | refused _ _ _ _ hpost | saved _ _ _ _ hpost =>
    simp only [submitFailure, List.cons_append, List.nil_append, List.mem_cons, List.not_mem_nil,
      or_false] at h
    rcases h with rfl | rfl | rfl
    · exact trivial
    · exact hpost
    · exact trivial

theorem answers_of_mem_trace {op : Operation} {e : Event}
    (h : e ∈ (s.perform op backend st).trace) : backend.Answers e := by
  cases op with
  | openRecord id => exact answers_of_mem_openRecord h
  | setField name input =>
    rw [perform, Outcome.map, (s.setField_frame st name input).2.2.2] at h
    cases h
  | clearField | resetForm | close => cases h
  | submit => exact answers_of_mem_submit h

/-! ## Runs -/

/-- Two runs of the same operations. Each request that the first run makes from the state `st` is
answered by the backend of the second as it is in the first. -/
inductive AnsweredAlike (s : EditSession Wire) :
    (ops ops' : List (Operation × Backend)) → (st : State) → Prop where
  | nil (st : State) : AnsweredAlike s [] [] st
  | cons {op : Operation} {backend backend' : Backend} {ops ops' : List (Operation × Backend)}
    {st : State} (hstep : ∀ e ∈ (s.perform op backend st).trace, backend'.Answers e)
    (hrest : AnsweredAlike s ops ops' (s.perform op backend st).state) :
    AnsweredAlike s ((op, backend) :: ops) ((op, backend') :: ops') st

/-- Runs that are answered alike from the same state have the same outcomes. -/
theorem AnsweredAlike.run_eq {ops ops' : List (Operation × Backend)}
    (h : s.AnsweredAlike ops ops' st) : s.run ops' st = s.run ops st := by
  induction h with
  | nil st => rfl
  | cons hstep _ ih => rw [run, run, perform_congr hstep, ih]

theorem AnsweredAlike.refl (ops : List (Operation × Backend)) (st : State) :
    s.AnsweredAlike ops ops st := by
  induction ops generalizing st with
  | nil => exact .nil st
  | cons step ops ih => exact .cons (fun _ ↦ answers_of_mem_trace) (ih _)

/--
A session is opened in two states, on the same record and with backends that answer the opening and
all later requests alike. The opening has the same outcome in both: the same result, the same state
and the same requests. So has every operation that follows.
-/
theorem run_eq_of_openRecord (s : EditSession Wire) (id : Option Int64)
    {backend backend' : Backend} {ops ops' : List (Operation × Backend)} {st : State}
    (h : s.AnsweredAlike ((.openRecord id, backend) :: ops) ((.openRecord id, backend') :: ops') st)
    (st' : State) :
    s.openRecord backend' id st' = s.openRecord backend id st ∧
      s.run ((.openRecord id, backend') :: ops') st' =
        s.run ((.openRecord id, backend) :: ops) st := by
  cases h with
  | cons hstep hrest =>
    have hopen : s.openRecord backend' id st' = s.openRecord backend id st :=
      (s.openRecord_eq backend' id st' st).trans (openRecord_congr hstep)
    refine ⟨hopen, ?_⟩
    have hperform : s.perform (.openRecord id) backend' st' =
        s.perform (.openRecord id) backend st := by
      rw [perform, hopen, ← perform]
    rw [run, run, hperform, hrest.run_eq]

end EditSession

namespace UserAccount

/-- A backend without accounts, which takes none either. -/
def emptyBackend : Backend where
  get url := .error (.status 404 ("no record at " ++ url))
  post _ _ := .error (.network "connection refused")

/-- After an opening that fails another account is made. -/
def laterRegistration : List (EditSession.Operation × Backend) :=
  [.openRecord none, .setField "username" (.text "eve"), .setField "password" (.text "pa55word"),
    .setField "validDays" (.text "7"), .submit].map fun op ↦ (op, sampleBackend)

set_option maxRecDepth 4000 in
/-- An account that is missing is opened once after a registration and once in a new session, with
another backend. What follows is the same. -/
theorem run_eq_after_registration :
    (session .standard).AnsweredAlike
        ((.openRecord (some 9), sampleBackend) :: laterRegistration)
        ((.openRecord (some 9), emptyBackend) :: laterRegistration)
        ((session .standard).stateAfter registration (session .standard).initial) ∧
      (session .standard).run ((.openRecord (some 9), emptyBackend) :: laterRegistration)
          (session .standard).initial =
        (session .standard).run ((.openRecord (some 9), sampleBackend) :: laterRegistration)
          ((session .standard).stateAfter registration (session .standard).initial) := by
  have halike : (session .standard).AnsweredAlike
      ((.openRecord (some 9), sampleBackend) :: laterRegistration)
      ((.openRecord (some 9), emptyBackend) :: laterRegistration)
      ((session .standard).stateAfter registration (session .standard).initial) := by
    refine .cons (fun e he ↦ ?_) (.refl laterRegistration _)
    have hmem : e ∈ [.log .debug "GET /api/user/get/9",
        .get "/api/user/get/9" (.error (.status 404 "no record at /api/user/get/9")),
        (session .standard).loadFailure 9
          (.api (.status 404 "no record at /api/user/get/9"))] := he
    simp only [List.mem_cons, List.not_mem_nil, or_false] at hmem
    rcases hmem with rfl | rfl | rfl
    · exact trivial
    · exact rfl
    · exact trivial
  exact ⟨halike, ((session .standard).run_eq_of_openRecord (some 9) halike
    (session .standard).initial).2⟩

end UserAccount

end EntityForms
