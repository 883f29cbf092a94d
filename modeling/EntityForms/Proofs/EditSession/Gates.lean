import EntityForms.Proofs.EditSession.Step

/-!
# The gates of a submission

On its way to the backend a form passes six gates. The session has to be open and its record loaded,
nothing may be wrong with the fields that the form shows, its lists have to be convertible, what
comes out has to be one of the typed records of the entity, and the backend has to accept it. What a
gate refuses a form with is told for each gate by itself, whatever the others say (`refusal?`).

How a submission ends is then a matter of their order alone. The first gate that refuses the form
gives the result, and the record is sent where none does; a request is made exactly when the five
gates before the backend are passed; and what changes in the state is told by the result
(`submit_refused_first_or_posted_once`).
-/

namespace EntityForms

/-- A request to the backend, as opposed to a line in the log. -/
def Event.isRequest : Event → Bool
  | .get .. | .post .. => true
  | .log .. => false

namespace EditSession

/-- The gates that a submitted form passes. -/
inductive Gate where
  /-- The session is open. -/
  | opened
  /-- The record of the form is loaded. -/
  | loaded
  /-- Nothing is wrong with the fields that the form shows. -/
  | fields
  /-- The codec can write the form back. -/
  | codec
  /-- What is to be sent is a typed record of the entity. -/
  | typed
  /-- The backend accepts what is sent. -/
  | backend

namespace Gate

/-- The gates that a form passes before it is sent, in their order. -/
def beforeRequest : List Gate := [.opened, .loaded, .fields, .codec, .typed]

/-- All gates in their order. -/
def all : List Gate := beforeRequest ++ [.backend]

theorem mem_all (gate : Gate) : gate ∈ all := by
  cases gate <;> simp [all, beforeRequest]

end Gate

variable {Wire : Type} (s : EditSession Wire) (backend : Backend) (st : State)

/-! ## What each gate refuses -/

/-- What is wrong with the fields that the form shows, in the order of their declaration. -/
def shownErrors : List FieldError :=
  (s.fields.fields.filter fun f ↦ f.isVisible st.mode).filterMap fun f ↦
    f.error? st.form s.localizer

/-- The URL to which the record of a form is sent. -/
def saveUrl : String := s.url (s.entity.endpoints.savePath st.id)

/-- What is to be sent of a wire record: the fields that are sent, and the id of an existing
record. -/
def outgoing (wire : Record) : Record :=
  (s.fields.syncFilter wire).insertSome "id" (st.id.map .ofInt64)

/-- What is to be sent of a form, where it can be written back. -/
def outgoing? : Option Record :=
  (s.entity.codec.stringify st.form).toOption.map (s.outgoing st)

/-- What a gate refuses a form with. -/
def refusal? : Gate → Option SessionError
  | .opened => if st.visible then none else some .notOpen
  | .loaded => if st.loaded then none else some .notLoaded
  | .fields => match s.shownErrors st with
    | [] => none
    | errors => some (.validation errors)
  | .codec => match s.entity.codec.stringify st.form with
    | .ok _ => none
    | .error cause => some (.codec cause)
  | .typed => (s.outgoing? st).bind fun body ↦ match s.entity.read body with
    | .ok _ => none
    | .error cause => some (.codec (.wireShape s.entity.info.name cause))
  | .backend => (s.outgoing? st).bind fun body ↦ match backend.post (s.saveUrl st) body with
    | .ok _ => none
    | .error cause => some (.api cause)

/-- The state that a submission leaves where it ends with the given result. -/
def State.settled (st : State) : Except SessionError Record → State
  | .ok _ => { st with error := none, fieldErrors := [] }
  | .error (.validation errors) => { st with fieldErrors := errors }
  | .error (.codec cause) => { st with error := some cause.message, fieldErrors := [] }
  | .error (.api cause) => { st with error := some cause.message, fieldErrors := [] }
  | .error _ => st

/-! ## Passing one gate after the other -/

variable {s st}

theorem outgoing?_of_payload {body : Record} (h : s.payload st = .ok body) :
    s.outgoing? st = some body := by
  obtain ⟨wire, hwire, hbody, -⟩ := payload_eq_ok_iff.mp h
  rw [outgoing?, hwire, ← hbody]
  rfl

variable (s st)

/-- The gates of the codec and of the types refuse a form exactly where no payload is made of it. -/
theorem findSome?_codec_typed :
    [Gate.codec, Gate.typed].findSome? (s.refusal? backend st) =
      match s.payload st with
      | .ok _ => none
      | .error e => some e := by
  rcases hwire : s.entity.codec.stringify st.form with cause | wire
  · rw [List.findSome?_cons, refusal?, payload, hwire]
    rfl
  · have hbody : s.outgoing? st = some (s.outgoing st wire) := by
      rw [outgoing?, hwire]
      rfl
    have hpayload : s.payload st =
        ((s.entity.decodeWire (s.outgoing st wire)).mapError .codec >>= fun _ ↦
          .ok (s.outgoing st wire)) := by
      rw [payload, hwire]
      rfl
    rw [hpayload, EntityClass.decodeWire]
    simp only [List.findSome?_cons, List.findSome?_nil, refusal?, hwire, hbody, Option.bind_some]
    rcases s.entity.read (s.outgoing st wire) with cause | typed <;> rfl

variable {st}

theorem findSome?_beforeRequest (hvisible : st.visible = true) (hloaded : st.loaded = true)
    (hvalid : s.shownErrors st = []) :
    Gate.beforeRequest.findSome? (s.refusal? backend st) =
      match s.payload st with
      | .ok _ => none
      | .error e => some e := by
  rw [← s.findSome?_codec_typed backend st]
  simp [Gate.beforeRequest, List.findSome?_cons, refusal?, hvisible, hloaded, hvalid]

variable (st)

/-- Either a gate before the request stops the form, and nothing is requested, or what is to be sent
is posted once, and the answer decides. -/
theorem stopped_or_posted :
    (∃ e, Gate.beforeRequest.findSome? (s.refusal? backend st) = some e ∧
      (s.submit backend st).result = .error e ∧
      (s.submit backend st).trace.filter Event.isRequest = []) ∨
    ∃ body, Gate.beforeRequest.findSome? (s.refusal? backend st) = none ∧
      s.outgoing? st = some body ∧
      (s.submit backend st).result = (match backend.post (s.saveUrl st) body with
        | .ok _ => .ok body
        | .error cause => .error (.api cause)) ∧
      (s.submit backend st).trace.filter Event.isRequest =
        [.post (s.saveUrl st) body (backend.post (s.saveUrl st) body)] := by
  have hsub := s.submission_submit backend st
  generalize s.submit backend st = o at hsub ⊢
  cases hsub with
  | notOpen hvisible =>
    exact .inl ⟨_, by simp [Gate.beforeRequest, refusal?, hvisible], rfl, rfl⟩
  | notLoaded hvisible hloaded =>
    exact .inl ⟨_, by simp [Gate.beforeRequest, refusal?, hvisible, hloaded], rfl, rfl⟩
  | @invalid hvisible hloaded errors hvalid herrors =>
    refine .inl ⟨.validation errors, ?_, rfl, rfl⟩
    rcases errors with _ | ⟨first, rest⟩
    · exact absurd rfl herrors
    · simp [Gate.beforeRequest, refusal?, hvisible, hloaded,
        show s.shownErrors st = first :: rest from hvalid]
  | noPayload hvisible hloaded hvalid hpayload =>
    refine .inl ⟨_, ?_, rfl, rfl⟩
    rw [s.findSome?_beforeRequest backend hvisible hloaded hvalid, hpayload]
  | refused hvisible hloaded hvalid hpayload hpost | saved hvisible hloaded hvalid hpayload hpost =>
    refine .inr ⟨_, ?_, outgoing?_of_payload hpayload, ?_, ?_⟩
    · rw [s.findSome?_beforeRequest backend hvisible hloaded hvalid, hpayload]
    · simp only [saveUrl, hpost, submitFailure]
    · rw [saveUrl, hpost]
      rfl

theorem findSome?_all :
    Gate.all.findSome? (s.refusal? backend st) =
      match (s.submit backend st).result with
      | .ok _ => none
      | .error e => some e := by
  rw [Gate.all, List.findSome?_append]
  rcases s.stopped_or_posted backend st with
    ⟨e, hstopped, hresult, -⟩ | ⟨body, hpassed, hbody, hresult, -⟩
  · rw [hstopped, hresult]
    rfl
  · rw [hpassed, hresult, List.findSome?_cons, refusal?, hbody]
    simp only [Option.bind_some]
    rcases backend.post (s.saveUrl st) body with cause | reply <;> rfl

theorem result_submit_eq_ok_iff {body : Record} :
    (s.submit backend st).result = .ok body ↔
      Gate.all.findSome? (s.refusal? backend st) = none ∧ s.outgoing? st = some body := by
  rw [findSome?_all]
  constructor
  · intro h
    rw [h]
    exact ⟨rfl, outgoing?_of_payload (payload_of_submit h)⟩
  · rintro ⟨hpassed, hbody⟩
    rcases hresult : (s.submit backend st).result with e | body'
    · rw [hresult] at hpassed
      cases hpassed
    · have hbody' := outgoing?_of_payload (payload_of_submit hresult)
      rw [Option.some.inj (hbody.symm.trans hbody')]

theorem requests_submit :
    (s.submit backend st).trace.filter Event.isRequest =
      if (Gate.beforeRequest.findSome? (s.refusal? backend st)).isNone then
        (s.outgoing? st).toList.map fun body ↦
          .post (s.saveUrl st) body (backend.post (s.saveUrl st) body)
      else [] := by
  rcases s.stopped_or_posted backend st with
    ⟨e, hstopped, -, hrequests⟩ | ⟨body, hpassed, hbody, -, hrequests⟩
  · rw [hstopped, hrequests]
    rfl
  · rw [hpassed, hbody, hrequests]
    rfl

theorem state_submit : (s.submit backend st).state = st.settled (s.submit backend st).result := by
  have hsub := s.submission_submit backend st
  generalize s.submit backend st = o at hsub ⊢
  cases hsub with
  | notOpen | notLoaded | invalid | refused | saved => rfl
  | noPayload _ _ _ hpayload =>
    obtain ⟨cause, rfl⟩ := exists_codec_of_payload_eq_error hpayload
    rfl

/--
How a submission ends, in any state and whatever the backend answers. It fails with what the first
gate refuses, and succeeds with what is to be sent where no gate refuses the form. That record is
posted, once, where the gates before the request are passed, and otherwise nothing is requested.
What is shown of errors and failures is told by the result, and all else stays.
-/
theorem submit_refused_first_or_posted_once (s : EditSession Wire) (backend : Backend)
    (st : State) :
    (∀ e, (s.submit backend st).result = .error e ↔
      Gate.all.findSome? (s.refusal? backend st) = some e) ∧
    (∀ body, (s.submit backend st).result = .ok body ↔
      (∀ gate, s.refusal? backend st gate = none) ∧ s.outgoing? st = some body) ∧
    (s.submit backend st).trace.filter Event.isRequest =
      (if (Gate.beforeRequest.findSome? (s.refusal? backend st)).isNone then
        (s.outgoing? st).toList.map fun body ↦
          .post (s.saveUrl st) body (backend.post (s.saveUrl st) body)
      else []) ∧
    (s.submit backend st).state = st.settled (s.submit backend st).result ∧
    (s.submit backend st).state.id = st.id ∧ (s.submit backend st).state.form = st.form ∧
    (s.submit backend st).state.visible = st.visible ∧
    (s.submit backend st).state.loaded = st.loaded := by
  refine ⟨fun e ↦ ?_, fun body ↦ ?_, s.requests_submit backend st, s.state_submit backend st,
    s.id_submit backend st, s.form_submit backend st, s.visible_submit backend st,
    s.loaded_submit backend st⟩
  · rw [s.findSome?_all backend st]
    rcases (s.submit backend st).result with e' | body
    · rw [Except.error.injEq, Option.some.injEq]
    · exact iff_of_false nofun nofun
  · have hall : (∀ gate, s.refusal? backend st gate = none) ↔
        Gate.all.findSome? (s.refusal? backend st) = none := by
      rw [List.findSome?_eq_none_iff]
      exact ⟨fun h gate _ ↦ h gate, fun h gate ↦ h gate (Gate.mem_all gate)⟩
    rw [s.result_submit_eq_ok_iff backend st, hall]

end EditSession

end EntityForms
