import EntityForms.EditSession.Run
import EntityForms.Proofs.Codec.Fields

/-!
# What one operation does

Each operation on a session is described once: which parts of the state it changes and to what,
and which requests it makes. The theory of runs rests on these descriptions and opens no operation
again.

Opening is told by its three ways to end, `Opening`: it overwrites every part of the state, so
nothing of the state before it is left. Setting, clearing and resetting write the form only.
Submitting is told by its six ways to end, `Submission`; whichever it is, the form and the record it
belongs to stay (`form_submit`, `id_submit`).
-/

namespace EntityForms.EditSession

variable {Wire : Type} (s : EditSession Wire) (backend : Backend) (st : State)

/-! ## Opening -/

/-- The record of an id, as the backend answers. -/
def fetch (k : Int64) : Except ApiError Record :=
  backend.get (s.url (s.entity.endpoints.getPath k)) >>= expectRecord

variable {s backend} in
theorem fetch_of_get {k : Int64} {w : Record}
    (h : backend.get (s.url (s.entity.endpoints.getPath k)) = .ok w.toJson) :
    s.fetch backend k = .ok w := by
  rw [fetch, h]
  exact expectRecord_toJson w

variable {s} in
theorem parseAnswer_eq_ok_iff {k : Int64} {form : Record} :
    s.parseAnswer (backend.get (s.url (s.entity.endpoints.getPath k))) = .ok form ↔
      ∃ w, s.fetch backend k = .ok w ∧ s.entity.codec.parse w = .ok form := by
  simp only [parseAnswer, fetch, Except.bind_eq_ok_iff, Except.mapError_eq_ok_iff]
  constructor
  · rintro ⟨payload, hget, w, hw, hparse⟩
    exact ⟨w, ⟨payload, hget, hw⟩, hparse⟩
  · rintro ⟨w, ⟨payload, hget, hw⟩, hparse⟩
    exact ⟨payload, hget, w, hw, hparse⟩

/-- What the trace shows of the request for a record. -/
def requestTrace (k : Int64) : List Event :=
  [.log .debug ("GET " ++ s.url (s.entity.endpoints.getPath k)),
    .get (s.url (s.entity.endpoints.getPath k))
      (backend.get (s.url (s.entity.endpoints.getPath k)))]

/-- The ways in which opening ends. In none of them anything of the state before is left. -/
inductive Opening : Option Int64 → Outcome Unit → Prop where
  | fresh : Opening none
      { result := .ok ()
        state := { id := none, form := s.fields.initialRecord, visible := true, loaded := true,
                   error := none, fieldErrors := [] } }
  | loaded {k : Int64} {form : Record}
      (hform : s.parseAnswer (backend.get (s.url (s.entity.endpoints.getPath k))) = .ok form) :
    Opening (some k)
      { result := .ok ()
        state := { id := some k, form, visible := true, loaded := true, error := none,
                   fieldErrors := [] }
        trace := s.requestTrace backend k }
  | failed {k : Int64} {e : SessionError}
      (he : s.parseAnswer (backend.get (s.url (s.entity.endpoints.getPath k))) = .error e) :
    Opening (some k)
      { result := .error e
        state := { id := some k, form := s.fields.initialRecord, visible := true, loaded := false,
                   error := some ("Failed to load: " ++ e.message), fieldErrors := [] }
        trace := s.requestTrace backend k ++ [s.loadFailure k e] }

variable {s backend} in
/-- The way in which an opening ends is told by the backend and by the id. -/
theorem Opening.eq {id : Option Int64} {o o' : Outcome Unit} (h : s.Opening backend id o)
    (h' : s.Opening backend id o') : o = o' := by
  cases h with
  | fresh =>
    cases h' with
    | fresh => rfl
  | loaded hform =>
    cases h' with
    | loaded hform' =>
      obtain rfl := Except.ok.inj (hform.symm.trans hform')
      rfl
    | failed he => cases hform.symm.trans he
  | failed he =>
    cases h' with
    | loaded hform => cases he.symm.trans hform
    | failed he' =>
      obtain rfl := Except.error.inj (he.symm.trans he')
      rfl

theorem opening_openRecord (id : Option Int64) :
    s.Opening backend id (s.openRecord backend id st) := by
  cases id with
  | none => exact .fresh
  | some k =>
    rw [openRecord]
    split
    case h_1 form hform => exact .loaded hform
    case h_2 e he => exact .failed he

@[simp] theorem id_openRecord (id : Option Int64) :
    (s.openRecord backend id st).state.id = id := by
  have hopening := s.opening_openRecord backend st id
  generalize s.openRecord backend id st = o at hopening ⊢
  cases hopening <;> rfl

theorem loaded_openRecord (id : Option Int64) :
    (s.openRecord backend id st).state.loaded = true ↔
      (s.openRecord backend id st).result = .ok () := by
  have hopening := s.opening_openRecord backend st id
  generalize s.openRecord backend id st = o at hopening ⊢
  cases hopening <;> simp

@[simp] theorem form_openRecord_none :
    (s.openRecord backend none st).state.form = s.fields.initialRecord := rfl

variable {s backend st} in
theorem form_openRecord_some {k : Int64} (h : (s.openRecord backend (some k) st).result = .ok ()) :
    ∃ w, s.fetch backend k = .ok w ∧
      s.entity.codec.parse w = .ok (s.openRecord backend (some k) st).state.form := by
  have hopening := s.opening_openRecord backend st (some k)
  generalize s.openRecord backend (some k) st = o at h hopening ⊢
  cases hopening with
  | loaded hform => exact (parseAnswer_eq_ok_iff backend).mp hform
  | failed => cases h

variable {s backend} in
theorem openRecord_of_fetch {k : Int64} {w form : Record} (hfetch : s.fetch backend k = .ok w)
    (hparse : s.entity.codec.parse w = .ok form) (st : State) :
    s.openRecord backend (some k) st =
      { result := .ok ()
        state := { id := some k, form, visible := true, loaded := true, error := none,
                   fieldErrors := [] }
        trace := s.requestTrace backend k } :=
  (s.opening_openRecord backend st (some k)).eq
    (.loaded ((parseAnswer_eq_ok_iff backend).mpr ⟨w, hfetch, hparse⟩))

theorem not_post_mem_openRecord (id : Option Int64) {url : String} {body : Record}
    {answer : Except ApiError Json} :
    Event.post url body answer ∉ (s.openRecord backend id st).trace := by
  have hopening := s.opening_openRecord backend st id
  generalize s.openRecord backend id st = o at hopening ⊢
  cases hopening <;> simp [requestTrace, loadFailure]

theorem get_mem_openRecord_iff {id : Option Int64} {url : String}
    {answer : Except ApiError Json} :
    .get url answer ∈ (s.openRecord backend id st).trace ↔
      ∃ k, id = some k ∧ url = s.url (s.entity.endpoints.getPath k) ∧
        answer = backend.get url := by
  have hopening := s.opening_openRecord backend st id
  generalize s.openRecord backend id st = o at hopening ⊢
  cases hopening with
  | fresh => simp
  | loaded | failed =>
    simp only [requestTrace, loadFailure, List.mem_append, List.mem_cons, List.not_mem_nil,
      Event.get.injEq, reduceCtorEq, or_false, false_or, Option.some.injEq, exists_eq_left']
    constructor
    · rintro ⟨rfl, rfl⟩
      exact ⟨rfl, rfl⟩
    · rintro ⟨rfl, rfl⟩
      exact ⟨rfl, rfl⟩

/-! ## Changing fields -/

/-- A declared field takes its input; the input of any other is refused. -/
theorem setField_eq (name : String) (input : Json) :
    s.setField name input st = match s.fields.get? name with
      | some f =>
        { result := .ok ()
          state := { st with
            form := st.form.insert name (f.coerce input)
            fieldErrors := st.fieldErrors.filter fun e ↦ e.field != name } }
      | none => { result := .error (.unknownField name), state := st } := by
  rw [setField]
  cases hf : s.fields.get? name with
  | none => rfl
  | some f => rw [← FieldTable.name_of_get? hf]

theorem setField_frame (name : String) (input : Json) :
    (s.setField name input st).state.id = st.id ∧
      (s.setField name input st).state.loaded = st.loaded ∧
      (s.setField name input st).state.visible = st.visible ∧
      (s.setField name input st).trace = [] := by
  rw [setField_eq]
  split <;> exact ⟨rfl, rfl, rfl, rfl⟩

theorem get?_form_setField_of_ne {name key : String} (h : name ≠ key) (input : Json) :
    (s.setField name input st).state.form.get? key = st.form.get? key := by
  rw [setField_eq]
  split
  · exact Dictionary.get?_insert_of_ne _ h _
  · rfl

theorem get?_form_setField_self (name : String) (input : Json) :
    (s.setField name input st).state.form.get? name =
      ((s.fields.get? name).map fun f ↦ f.coerce input).or (st.form.get? name) := by
  rw [setField_eq]
  cases s.fields.get? name with
  | some f => simp
  | none => rfl

/-! ## The payload -/

variable {s st} in
theorem payload_eq_ok_iff {body : Record} :
    s.payload st = .ok body ↔ ∃ wire, s.entity.codec.stringify st.form = .ok wire ∧
      (s.fields.syncFilter wire).insertSome "id" (st.id.map .ofInt64) = body ∧
      ∃ typed, s.entity.decodeWire body = .ok typed := by
  simp only [payload, Except.bind_eq_ok_iff, Except.mapError_eq_ok_iff, Except.ok.injEq]
  constructor
  · rintro ⟨wire, hwire, typed, htyped, rfl⟩
    exact ⟨wire, hwire, rfl, typed, htyped⟩
  · rintro ⟨wire, hwire, rfl, typed, htyped⟩
    exact ⟨wire, hwire, typed, htyped, rfl⟩

variable {s st} in
theorem exists_codec_of_payload_eq_error {e : SessionError} (h : s.payload st = .error e) :
    ∃ cause, e = .codec cause := by
  rw [payload] at h
  cases hwire : s.entity.codec.stringify st.form with
  | error cause =>
    rw [hwire] at h
    exact ⟨cause, (Except.error.inj h).symm⟩
  | ok wire =>
    rw [hwire] at h
    change ((s.entity.decodeWire _).mapError SessionError.codec >>= _) = _ at h
    generalize s.entity.decodeWire _ = typed at h
    cases typed with
    | error cause => exact ⟨cause, (Except.error.inj h).symm⟩
    | ok typed => cases h

variable {s st} in
theorem get?_payload_id {body : Record} {k : Int64} (h : s.payload st = .ok body)
    (hid : st.id = some k) : body.get? "id" = some (.ofInt64 k) := by
  obtain ⟨wire, -, rfl, -⟩ := payload_eq_ok_iff.mp h
  rw [hid, Option.map_some, Dictionary.insertSome, Dictionary.get?_insert_self]

variable {s st} in
/-- Apart from the id, a payload is the wire record of the form without what is not sent. -/
theorem get?_payload {body : Record} (h : s.payload st = .ok body) :
    ∃ wire, s.entity.codec.stringify st.form = .ok wire ∧ ∀ key, key ≠ "id" ∨ st.id = none →
      body.get? key = if (s.fields.get? key).all Field.isSynced then wire.get? key else none := by
  obtain ⟨wire, hwire, rfl, -⟩ := payload_eq_ok_iff.mp h
  refine ⟨wire, hwire, fun key hkey ↦ ?_⟩
  rw [← FieldTable.get?_syncFilter, Dictionary.get?_insertSome]
  rcases hkey with hkey | hid
  · rw [if_neg (Ne.symm hkey)]
  · rw [hid, Option.map_none, Option.none_or]
    split
    · rename_i heq
      rw [heq]
    · rfl

variable {s st} in
theorem contains_payload {body : Record} (h : s.payload st = .ok body) {key : String}
    (hkey : key ≠ "id" ∨ st.id = none) :
    body.contains key =
      ((s.fields.get? key).all Field.isSynced && st.form.contains key) := by
  obtain ⟨wire, hwire, hget⟩ := get?_payload h
  rw [← Codec.contains_stringify hwire, Dictionary.contains, hget key hkey]
  cases (s.fields.get? key).all Field.isSynced with
  | true => rfl
  | false => rfl

/-! ## Submitting -/

/-- The ways in which submitting ends. -/
inductive Submission : Outcome Record → Prop where
  | notOpen (hvisible : st.visible = false) :
    Submission { result := .error .notOpen, state := st }
  | notLoaded (hvisible : st.visible = true) (hloaded : st.loaded = false) :
    Submission { result := .error .notLoaded, state := st }
  | invalid (hvisible : st.visible = true) (hloaded : st.loaded = true) {errors : List FieldError}
      (hvalid : s.fields.validate st.mode st.form s.localizer = errors) (herrors : errors ≠ []) :
    Submission
      { result := .error (.validation errors), state := { st with fieldErrors := errors } }
  | noPayload (hvisible : st.visible = true) (hloaded : st.loaded = true)
      (hvalid : s.fields.validate st.mode st.form s.localizer = []) {e : SessionError}
      (hpayload : s.payload st = .error e) :
    Submission (s.submitFailure e st [])
  | refused (hvisible : st.visible = true) (hloaded : st.loaded = true)
      (hvalid : s.fields.validate st.mode st.form s.localizer = []) {body : Record} {e : ApiError}
      (hpayload : s.payload st = .ok body)
      (hpost : backend.post (s.url (s.entity.endpoints.savePath st.id)) body = .error e) :
    Submission (s.submitFailure (.api e) st
      [.log .debug ("POST " ++ s.url (s.entity.endpoints.savePath st.id)),
        .post (s.url (s.entity.endpoints.savePath st.id)) body (.error e)])
  | saved (hvisible : st.visible = true) (hloaded : st.loaded = true)
      (hvalid : s.fields.validate st.mode st.form s.localizer = []) {body : Record} {reply : Json}
      (hpayload : s.payload st = .ok body)
      (hpost : backend.post (s.url (s.entity.endpoints.savePath st.id)) body = .ok reply) :
    Submission
      { result := .ok body
        state := { st with error := none, fieldErrors := [] }
        trace := [.log .debug ("POST " ++ s.url (s.entity.endpoints.savePath st.id)),
          .post (s.url (s.entity.endpoints.savePath st.id)) body (.ok reply),
          .log .info s.savedLine] }

theorem submission_send (hvisible : st.visible = true) (hloaded : st.loaded = true)
    (hvalid : s.fields.validate st.mode st.form s.localizer = []) :
    s.Submission backend st (s.send backend st) := by
  rw [send]
  cases hpayload : s.payload st with
  | error e => exact .noPayload hvisible hloaded hvalid hpayload
  | ok body =>
    cases hpost : backend.post (s.url (s.entity.endpoints.savePath st.id)) body with
    | error e => simpa [hpost] using .refused hvisible hloaded hvalid hpayload hpost
    | ok reply => simpa [hpost] using .saved hvisible hloaded hvalid hpayload hpost

theorem submission_submit : s.Submission backend st (s.submit backend st) := by
  rw [submit]
  split
  case isTrue hvisible => exact .notOpen (by simpa using hvisible)
  case isFalse hvisible =>
    replace hvisible : st.visible = true := by simpa using hvisible
    split
    case isTrue hloaded => exact .notLoaded hvisible (by simpa using hloaded)
    case isFalse hloaded =>
      replace hloaded : st.loaded = true := by simpa using hloaded
      split
      case h_1 hvalid => exact s.submission_send backend st hvisible hloaded hvalid
      case h_2 errors => exact .invalid hvisible hloaded rfl errors

variable {s backend st} in
theorem Submission.state_eq {o : Outcome Record} (h : s.Submission backend st o) :
    ∃ error fieldErrors, o.state = { st with error := error, fieldErrors := fieldErrors } := by
  cases h <;> exact ⟨_, _, rfl⟩

@[simp] theorem id_submit : (s.submit backend st).state.id = st.id := by
  obtain ⟨error, fieldErrors, h⟩ := (s.submission_submit backend st).state_eq
  rw [h]

@[simp] theorem form_submit : (s.submit backend st).state.form = st.form := by
  obtain ⟨error, fieldErrors, h⟩ := (s.submission_submit backend st).state_eq
  rw [h]

@[simp] theorem visible_submit : (s.submit backend st).state.visible = st.visible := by
  obtain ⟨error, fieldErrors, h⟩ := (s.submission_submit backend st).state_eq
  rw [h]

@[simp] theorem loaded_submit : (s.submit backend st).state.loaded = st.loaded := by
  obtain ⟨error, fieldErrors, h⟩ := (s.submission_submit backend st).state_eq
  rw [h]

/-- Whether the form can be submitted: the session is open and its record is loaded. -/
def State.isReady (st : State) : Bool := st.visible && st.loaded

@[simp] theorem isReady_submit : (s.submit backend st).state.isReady = st.isReady := by
  rw [State.isReady, visible_submit, loaded_submit, State.isReady]

variable {st} in
theorem submit_of_not_ready (h : st.isReady = false) :
    ∃ e, s.submit backend st = { result := .error e, state := st } := by
  have hsub := s.submission_submit backend st
  generalize s.submit backend st = o at hsub ⊢
  cases hsub with
  | notOpen => exact ⟨_, rfl⟩
  | notLoaded => exact ⟨_, rfl⟩
  | invalid hvisible hloaded | noPayload hvisible hloaded | refused hvisible hloaded
  | saved hvisible hloaded =>
    rw [State.isReady, hvisible, hloaded] at h
    cases h

variable {st} in
theorem submit_eq_send (hvisible : st.visible = true) (hloaded : st.loaded = true)
    (hvalid : s.fields.validate st.mode st.form s.localizer = []) :
    s.submit backend st = s.send backend st := by
  simp only [submit, hvisible, hloaded, hvalid, Bool.not_true, if_neg Bool.false_ne_true]

variable {backend st} in
theorem result_submit_of_post {body : Record} {reply : Json} (hvisible : st.visible = true)
    (hloaded : st.loaded = true) (hvalid : s.fields.validate st.mode st.form s.localizer = [])
    (hpayload : s.payload st = .ok body)
    (hpost : backend.post (s.url (s.entity.endpoints.savePath st.id)) body = .ok reply) :
    (s.submit backend st).result = .ok body := by
  rw [s.submit_eq_send backend hvisible hloaded hvalid, send, hpayload]
  dsimp only
  rw [hpost]

variable {st} in
theorem result_submit_of_no_payload (hvisible : st.visible = true) (hloaded : st.loaded = true)
    (hvalid : s.fields.validate st.mode st.form s.localizer = []) {e : SessionError}
    (hpayload : s.payload st = .error e) : (s.submit backend st).result = .error e := by
  rw [s.submit_eq_send backend hvisible hloaded hvalid, send, hpayload]
  rfl

variable {st} in
theorem exists_post_mem_submit (hvisible : st.visible = true) (hloaded : st.loaded = true)
    (hvalid : s.fields.validate st.mode st.form s.localizer = []) {body : Record}
    (hpayload : s.payload st = .ok body) :
    ∃ answer, .post (s.url (s.entity.endpoints.savePath st.id)) body answer ∈
      (s.submit backend st).trace := by
  rw [s.submit_eq_send backend hvisible hloaded hvalid, send, hpayload]
  dsimp only
  cases backend.post (s.url (s.entity.endpoints.savePath st.id)) body with
  | ok reply => exact ⟨_, List.mem_cons_of_mem _ List.mem_cons_self⟩
  | error e => exact ⟨_, List.mem_cons_of_mem _ List.mem_cons_self⟩

variable {st} in
theorem result_submit_of_invalid (hvisible : st.visible = true) (hloaded : st.loaded = true)
    {errors : List FieldError} (herrors : errors ≠ [])
    (hvalid : s.fields.validate st.mode st.form s.localizer = errors) :
    (s.submit backend st).result = .error (.validation errors) := by
  have hsub := s.submission_submit backend st
  generalize s.submit backend st = o at hsub ⊢
  cases hsub with
  | notOpen h => cases h.symm.trans hvisible
  | notLoaded _ h => cases h.symm.trans hloaded
  | invalid _ _ h => rw [← hvalid, ← h]
  | noPayload _ _ h | refused _ _ h | saved _ _ h => exact absurd (hvalid.symm.trans h) herrors

variable {s backend st} in
/-- A record is posted from an open and loaded session, to the path that its id asks for. -/
theorem post_mem_submit {url : String} {body : Record} {answer : Except ApiError Json}
    (h : .post url body answer ∈ (s.submit backend st).trace) :
    st.visible = true ∧ st.loaded = true ∧ s.payload st = .ok body ∧
      url = s.url (s.entity.endpoints.savePath st.id) := by
  have hsub := s.submission_submit backend st
  generalize s.submit backend st = o at h hsub
  -- two of the six ways reach the request
  cases hsub with
  | notOpen | notLoaded | invalid => cases h
  | noPayload => simp [submitFailure] at h
  | refused hvisible hloaded _ hpayload _ =>
    simp only [submitFailure, List.cons_append, List.nil_append, List.mem_cons, reduceCtorEq,
      Event.post.injEq, List.not_mem_nil, or_false, false_or] at h
    obtain ⟨rfl, rfl, -⟩ := h
    exact ⟨hvisible, hloaded, hpayload, rfl⟩
  | saved hvisible hloaded _ hpayload _ =>
    simp only [List.mem_cons, reduceCtorEq, Event.post.injEq, List.not_mem_nil, or_false,
      false_or] at h
    obtain ⟨rfl, rfl, -⟩ := h
    exact ⟨hvisible, hloaded, hpayload, rfl⟩

variable {s backend st} in
/-- What is sent is the payload of a form that passes validation. -/
theorem sent_of_submit {body : Record} (h : (s.submit backend st).result = .ok body) :
    s.fields.validate st.mode st.form s.localizer = [] ∧ s.payload st = .ok body := by
  have hsub := s.submission_submit backend st
  generalize s.submit backend st = o at h hsub
  cases hsub with
  | notOpen | notLoaded | invalid | noPayload | refused => cases h
  | saved _ _ hvalid hpayload _ => exact ⟨hvalid, Except.ok.inj h ▸ hpayload⟩

variable {s backend st} in
theorem payload_of_submit {body : Record} (h : (s.submit backend st).result = .ok body) :
    s.payload st = .ok body :=
  (sent_of_submit h).2

theorem not_get_mem_submit {url : String} {answer : Except ApiError Json} :
    Event.get url answer ∉ (s.submit backend st).trace := by
  have hsub := s.submission_submit backend st
  generalize s.submit backend st = o at hsub ⊢
  cases hsub <;> simp [submitFailure]

/-! ## Any operation -/

variable {s backend st} in
theorem get_mem_perform {op : Operation} {url : String} {answer : Except ApiError Json}
    (h : .get url answer ∈ (s.perform op backend st).trace) :
    ∃ k, op = .openRecord (some k) ∧ url = s.url (s.entity.endpoints.getPath k) := by
  cases op with
  | openRecord id =>
    obtain ⟨k, rfl, hurl, -⟩ := (s.get_mem_openRecord_iff backend st).mp h
    exact ⟨k, rfl, hurl⟩
  | setField name input =>
    have hnil := (s.setField_frame st name input).2.2.2
    rw [perform, Outcome.map, hnil] at h
    cases h
  | clearField | resetForm | close => cases h
  | submit => exact absurd h (s.not_get_mem_submit backend st)

variable {s backend st} in
theorem post_mem_perform {op : Operation} {url : String} {body : Record}
    {answer : Except ApiError Json} (h : .post url body answer ∈ (s.perform op backend st).trace) :
    op = .submit ∧ .post url body answer ∈ (s.submit backend st).trace := by
  cases op with
  | openRecord id => exact absurd h (s.not_post_mem_openRecord backend st id)
  | setField name input =>
    have hnil := (s.setField_frame st name input).2.2.2
    rw [perform, Outcome.map, hnil] at h
    cases h
  | clearField | resetForm | close => cases h
  | submit => exact ⟨rfl, h⟩

/-- The record that is edited changes by an opening only. -/
theorem perform_frame {op : Operation} (h : ∀ id, op ≠ .openRecord id) :
    (s.perform op backend st).state.id = st.id ∧
      (s.perform op backend st).state.loaded = st.loaded := by
  cases op with
  | openRecord id => exact absurd rfl (h id)
  | setField name input =>
    exact ⟨(s.setField_frame st name input).1, (s.setField_frame st name input).2.1⟩
  | clearField | resetForm | close => exact ⟨rfl, rfl⟩
  | submit => exact ⟨s.id_submit backend st, s.loaded_submit backend st⟩

theorem visible_perform {op : Operation} (hopen : ∀ id, op ≠ .openRecord id)
    (h : (s.perform op backend st).state.visible = true) : st.visible = true ∧ op ≠ .close := by
  cases op with
  | openRecord id => exact absurd rfl (hopen id)
  | setField name input =>
    exact ⟨(s.setField_frame st name input).2.2.1 ▸ h, by simp⟩
  | clearField | resetForm => exact ⟨h, by simp⟩
  | close => cases h
  | submit => exact ⟨s.visible_submit backend st ▸ h, by simp⟩

end EntityForms.EditSession
