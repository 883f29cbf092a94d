import EntityForms.Backend
import EntityForms.Config
import EntityForms.Entity
import EntityForms.Field.Input
import EntityForms.Form

/-!
# Edit sessions

A session edits one record of an entity at a time. It is opened on an existing record, which it
loads from the backend, or on a new one; fields are changed one by one; submitting validates the
form, converts it to a wire record, checks that record and posts it.

The state of a session is a value. An operation takes the state and the backend as it answers at
that moment to an `Outcome`: a result, the state afterwards and the trace of what was asked of the
backend and written to the log, in order. No operation sends more than one request, so an arbitrary
backend per operation stands for every behaviour that a backend can show over a run.
-/

namespace EntityForms

/-- Why an operation on a session failed. -/
inductive SessionError where
  /-- Fields of the form have values that are not allowed. -/
  | validation (errors : List FieldError)
  | codec (cause : CodecError)
  | api (cause : ApiError)
  | unknownField (name : String)
  /-- The session was not opened, or it was closed. -/
  | notOpen
  /-- The record cannot be changed. -/
  | locked
  /-- The record could not be loaded. -/
  | notLoaded
  deriving DecidableEq, Repr

/-- The message of a session error. -/
def SessionError.message : SessionError → String
  | .validation errors => Text.writeNat errors.length ++ " field(s) failed validation"
  | .codec cause => cause.message
  | .api cause => cause.message
  | .unknownField name => "Unknown field: " ++ name
  | .notOpen => "Edit session is not open"
  | .locked => "Record is locked and cannot be changed"
  | .notLoaded => "Record was not loaded and cannot be saved"

/-- How important a line of the log is. -/
inductive LogLevel where
  | debug | info | warn | error
  deriving DecidableEq, Repr

/-- What an operation does besides changing the state. -/
inductive Event where
  /-- A record was asked for. -/
  | get (url : String) (answer : Except ApiError Json)
  /-- A record was sent. -/
  | post (url : String) (body : Record) (answer : Except ApiError Json)
  /-- A line was written to the log. -/
  | log (level : LogLevel) (line : String)

/-- A session of an entity class with its configuration; what it holds at a time is a `State`. -/
structure EditSession (Wire : Type) where
  entity : EntityClass Wire
  config : Config
  fields : FieldTable
  /-- The fields are those that the entity declares. -/
  fields_eq : entity.table = .ok fields

namespace EditSession

/-- What a session holds. -/
structure State where
  /-- The id of the record that is edited; a new record has none. -/
  id : Option Int64
  /-- The record as the form edits it. -/
  form : Record
  /-- Whether the session is open. -/
  visible : Bool
  /-- Whether the form holds the record of `id`, or a fresh one where there is no id. -/
  loaded : Bool
  /-- The failure shown above the form. -/
  error : Option String
  /-- What the last attempt to submit found wrong with the fields. -/
  fieldErrors : List FieldError

/-- What comes of an operation. -/
structure Outcome (α : Type) where
  result : Except SessionError α
  state : State
  trace : List Event := []

/-- Whether a new record is made or an existing one is changed. -/
def State.mode (st : State) : Mode := .ofId st.id

variable {Wire : Type}

/-- A session of an entity whose fields can be used. -/
def create (entity : EntityClass Wire) (config : Config) :
    Except ConfigurationError (EditSession Wire) :=
  match h : entity.table with
  | .ok fields => .ok ⟨entity, config, fields, h⟩
  | .error e => .error e

variable (s : EditSession Wire)

/-- What a session holds before it is opened. -/
def initial : State where
  id := none
  form := s.fields.initialRecord
  visible := false
  loaded := false
  error := none
  fieldErrors := []

/-- The texts of the session. -/
def localizer : Localizer := s.config.localizer

/-- The URL of a path of the backend. -/
def url (path : String) : String := joinUrl s.config.basePath path

/-- The title of the form: what is done, to what. -/
def title (st : State) : String :=
  let action := s.localizer.display (match st.mode with
    | .create => "basic.Create"
    | .edit => "basic.Edit")
  let element := s.localizer.display s.entity.info.elementKey
  match s.config.locale with
  | .zhCN => action ++ element
  | .enUS => action ++ " " ++ element

/-- The form as it is shown. -/
def formModel (st : State) : Form := s.fields.form st.mode st.form s.localizer

/-! ## Opening and closing -/

/-- Back to the initial values, with nothing reported. -/
def resetForm (st : State) : State :=
  { st with form := s.fields.initialRecord, error := none, fieldErrors := [] }

/-- The form record of a stored record, from the answer of the backend. -/
def parseAnswer (answer : Except ApiError Json) : Except SessionError Record := do
  let payload ← answer.mapError .api
  let wire ← (expectRecord payload).mapError .api
  (s.entity.codec.parse wire).mapError .codec

/-- The log line of a record that could not be loaded. -/
def loadFailure (id : Int64) (e : SessionError) : Event :=
  .log .warn (s.entity.info.name ++ ": failed to load " ++ Text.writeInt id.toInt ++ ": " ++
    e.message)

/--
Open the session. With an id the record of that id is loaded; where that fails the form falls back
to the initial values, so that it never holds another record under the new id. Without an id the
form starts from the initial values.
-/
def openRecord (backend : Backend) (id : Option Int64) (st : State) : Outcome Unit :=
  let opened : State :=
    { st with id, visible := true, loaded := false, error := none, fieldErrors := [] }
  match id with
  | none => { result := .ok (), state := { s.resetForm opened with loaded := true } }
  | some k =>
    let url := s.url (s.entity.endpoints.getPath k)
    let answer := backend.get url
    let asked := [.log .debug ("GET " ++ url), .get url answer]
    match s.parseAnswer answer with
    | .ok form =>
      { result := .ok (), state := { opened with form, loaded := true }, trace := asked }
    | .error e =>
      { result := .error e
        state := { opened with
          form := s.fields.initialRecord, error := some ("Failed to load: " ++ e.message) }
        trace := asked ++ [s.loadFailure k e] }

/-- Close the session; the form stays until it is opened again. -/
def close (st : State) : State := { st with visible := false }

/-! ## Changing fields -/

/-- Store the input of a control; what was wrong with the field before is forgotten. -/
def setField (name : String) (input : Json) (st : State) : Outcome Unit :=
  match s.fields.get? name with
  | none => { result := .error (.unknownField name), state := st }
  | some f =>
    { result := .ok ()
      state := { st with
        form := st.form.insert f.name (f.coerce input)
        fieldErrors := st.fieldErrors.filter fun e ↦ e.field != f.name } }

/-- Take a value out of the form. -/
def clearField (name : String) (st : State) : Option Json × State :=
  (st.form.get? name, { st with form := st.form.erase name })

/-! ## Submitting -/

/-- The record that submitting the form would send. -/
def payload (st : State) : Except SessionError Record := do
  let wire ← (s.entity.codec.stringify st.form).mapError .codec
  let synced := s.fields.syncFilter wire
  let body := synced.insertSome "id" (st.id.map .ofInt64)
  let _ ← (s.entity.decodeWire body).mapError .codec
  .ok body

/-- Report a failure above the form. -/
def submitFailure (e : SessionError) (st : State) (trace : List Event) : Outcome Record where
  result := .error e
  state := { st with error := some e.message, fieldErrors := [] }
  trace := trace ++ [.log .warn (s.entity.info.name ++ ": submit failed: " ++ e.message)]

/-- The log line of a record that was saved. -/
def savedLine : String :=
  s.entity.info.name ++ ": " ++ s.localizer.display "basic.SaveSuccess"

/-- Send the record of a form that passed validation. -/
def send (backend : Backend) (st : State) : Outcome Record :=
  match s.payload st with
  | .error e => s.submitFailure e st []
  | .ok body =>
    let url := s.url (s.entity.endpoints.savePath st.id)
    let answer := backend.post url body
    let sent := [.log .debug ("POST " ++ url), .post url body answer]
    match answer with
    | .error e => s.submitFailure (.api e) st sent
    | .ok _ =>
      { result := .ok body
        state := { st with error := none, fieldErrors := [] }
        trace := sent ++ [.log .info s.savedLine] }

/--
Submit the form: validate what it shows, take it to a wire record, leave out what is not sent, add
the id of an existing record, check the result and post it. The result is the record that was sent.
-/
def submit (backend : Backend) (st : State) : Outcome Record :=
  if !st.visible then { result := .error .notOpen, state := st }
  else if !st.loaded then { result := .error .notLoaded, state := st }
  else match s.fields.validate st.mode st.form s.localizer with
    | [] => s.send backend st
    | errors =>
      { result := .error (.validation errors), state := { st with fieldErrors := errors } }

end EditSession

end EntityForms
