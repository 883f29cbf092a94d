import EntityForms.Proofs.Details.Secret
import EntityForms.Proofs.EditSession.Step
import Mathlib.Data.List.Forall2

/-!
# A stored secret has no influence

A details view with a secret takes it out of every record that it loads. So it makes no difference
what the backend has stored there: two runs whose backends answer alike, but for the secret in the
records that they give out, have the same results, go through the same states and send the same
requests (`forall₂_run`).

The records differ when they arrive, and what is made of them has to be the same before anything
else looks at them. Both ways in which a load ends see to that. Where it succeeds, the codec leaves
the secret alone, so that parsing and taking it out can be done in either order
(`Codec.map_erase_parse`), and what is left is the same for both. Where it fails, it fails for a
reason that has nothing to do with the secret, and the form begins anew. No other operation asks
for a record.
-/

namespace EntityForms

/-! ## Answers that differ in one member -/

/-- Two answers to a request for a record, which are the same but for one member of the record. -/
inductive AnswersAlike (key : String) : (answer answer' : Except ApiError Json) → Prop where
  | same (answer : Except ApiError Json) : AnswersAlike key answer answer
  | records {first first' : Option String} {members : Ascending Json first}
    {members' : Ascending Json first'}
    (h : members.toDictionary.erase key = members'.toDictionary.erase key) :
    AnswersAlike key (.ok (.object members)) (.ok (.object members'))

/-- Two backends that answer alike, but for one member of the records that they give out. -/
structure Backend.AlikeExcept (key : String) (backend backend' : Backend) : Prop where
  get : ∀ url, AnswersAlike key (backend.get url) (backend'.get url)
  post : ∀ url body, backend.post url body = backend'.post url body

/-- Two events that are the same, but for one member of a record that was answered. -/
inductive Event.AlikeExcept (key : String) : (e e' : Event) → Prop where
  | get (url : String) {answer answer' : Except ApiError Json}
    (h : AnswersAlike key answer answer') : AlikeExcept key (.get url answer) (.get url answer')
  | post (url : String) (body : Record) (answer : Except ApiError Json) :
    AlikeExcept key (.post url body answer) (.post url body answer)
  | log (level : LogLevel) (line : String) : AlikeExcept key (.log level line) (.log level line)

instance (key : String) : Std.Refl (Event.AlikeExcept key) where
  refl
    | .get url answer => .get url (.same answer)
    | .post url body answer => .post url body answer
    | .log level line => .log level line

/-- Two outcomes with the same result, the same state and the same requests. -/
structure EditSession.Outcome.AlikeExcept {α : Type} (key : String) (o o' : Outcome α) : Prop where
  result : o.result = o'.result
  state : o.state = o'.state
  trace : List.Forall₂ (Event.AlikeExcept key) o.trace o'.trace

namespace EditSession.Outcome.AlikeExcept

variable {α β : Type} {key : String} {o o' : Outcome α}

theorem refl (key : String) (o : Outcome α) : o.AlikeExcept key o :=
  ⟨rfl, rfl, List.forall₂_refl _⟩

theorem map (h : o.AlikeExcept key o') (f : α → β) : (o.map f).AlikeExcept key (o'.map f) := by
  refine ⟨?_, h.state, h.trace⟩
  rw [Outcome.map, Outcome.map, h.result]

end EditSession.Outcome.AlikeExcept

/-! ## Parsing without a member -/

namespace Codec

theorem map_erase_replace {value : ListTransform → Record → Except CodecError Json} {r : Record}
    {ts : List ListTransform} {key : String}
    (h : ∀ t ∈ ts, t.field ≠ key ∧ value t (r.erase key) = value t r) (out : Record) :
    (replace value r ts out).map (·.erase key) =
      replace value (r.erase key) ts (out.erase key) := by
  induction ts generalizing out with
  | nil => rfl
  | cons t ts ih =>
    rw [List.forall_mem_cons] at h
    obtain ⟨⟨hfield, hvalue⟩, hrest⟩ := h
    rw [replace, replace, hvalue]
    cases value t r with
    | error e => rfl
    | ok v =>
      have hinsert := ih hrest (out.insert t.field v)
      rw [Dictionary.erase_insert_of_ne _ hfield] at hinsert
      exact hinsert

theorem map_erase_parse {c : Codec} {key : String} (hkey : c.lastTransform? key = none)
    (wire : Record) : (c.parse wire).map (·.erase key) = c.parse (wire.erase key) := by
  refine map_erase_replace (fun t ht ↦ ?_) wire
  have hne : t.field ≠ key := ListTransform.lastFor?_eq_none_iff.mp hkey t ht
  refine ⟨hne, ?_⟩
  rw [ListTransform.parseValue, ListShape.classify, Dictionary.get?_erase, if_neg hne,
    ← ListShape.classify, ← ListTransform.parseValue]

end Codec

namespace EditSession

variable {Wire : Type} {s : EditSession Wire} {key : String}

/-- What is made of a record, but for the key, is told by the record without it. -/
theorem map_erase_parseAnswer_object (hkey : s.entity.codec.lastTransform? key = none)
    {first : Option String} (members : Ascending Json first) :
    (s.parseAnswer (.ok (.object members))).map (·.erase key) =
      (s.entity.codec.parse (members.toDictionary.erase key)).mapError .codec := by
  rw [← Codec.map_erase_parse hkey]
  change ((s.entity.codec.parse members.toDictionary).mapError _).map _ = _
  cases s.entity.codec.parse members.toDictionary <;> rfl

theorem map_erase_parseAnswer (hkey : s.entity.codec.lastTransform? key = none)
    {answer answer' : Except ApiError Json} (h : AnswersAlike key answer answer') :
    (s.parseAnswer answer).map (·.erase key) = (s.parseAnswer answer').map (·.erase key) := by
  cases h with
  | same => rfl
  | records h =>
    rw [map_erase_parseAnswer_object hkey, map_erase_parseAnswer_object hkey, h]

theorem forall₂_requestTrace {backend backend' : Backend} (h : backend.AlikeExcept key backend')
    (k : Int64) :
    List.Forall₂ (Event.AlikeExcept key) (s.requestTrace backend k) (s.requestTrace backend' k) :=
  .cons (.log _ _) (.cons (.get _ (h.get _)) .nil)

theorem submit_eq_of_post {backend backend' : Backend} {st : State}
    (h : ∀ url body, backend.post url body = backend'.post url body) :
    s.submit backend st = s.submit backend' st := by
  simp only [submit, send, h]

end EditSession

namespace Details

open EditSession (Outcome Reply State)

variable {Wire : Type} {d : Details Wire} {key : String} {backend backend' : Backend} {st : State}

/-! ## One operation -/

theorem load_some_eq (hsecret : d.secret = some key) (k : Int64) :
    d.load backend (some k) st =
      match (d.session.parseAnswer (backend.get
        (d.session.url (d.session.entity.endpoints.getPath k)))).map (·.erase key) with
      | .ok form =>
        { result := .ok ()
          state := { id := some k, form, visible := true, loaded := true, error := none,
                     fieldErrors := [] }
          trace := d.session.requestTrace backend k }
      | .error e =>
        { result := .error e
          state := { id := some k, form := d.session.fields.initialRecord, visible := true,
                     loaded := false, error := some ("Failed to load: " ++ e.message),
                     fieldErrors := [] }
          trace := d.session.requestTrace backend k ++ [d.session.loadFailure k e] } := by
  have hopening := d.session.opening_openRecord backend st (some k)
  rw [load]
  generalize d.session.openRecord backend (some k) st = o at hopening ⊢
  cases hopening with
  | loaded hform =>
    rw [hform]
    simp only [hideSecret, State.mode, Mode.ofId, hsecret, EditSession.clearField, Except.map]
  | failed he =>
    rw [he]
    rfl

/-- An answer that differs in the secret only makes no difference to a load. -/
theorem load_alike (hsecret : d.secret = some key)
    (hkey : d.session.entity.codec.lastTransform? key = none)
    (h : backend.AlikeExcept key backend') (id : Option Int64) :
    (d.load backend id st).AlikeExcept key (d.load backend' id st) := by
  cases id with
  | none => exact ⟨rfl, rfl, .nil⟩
  | some k =>
    have hanswer := EditSession.map_erase_parseAnswer hkey
      (h.get (d.session.url (d.session.entity.endpoints.getPath k)))
    have htrace := EditSession.forall₂_requestTrace (s := d.session) h k
    rw [load_some_eq hsecret, load_some_eq hsecret, hanswer]
    split
    case h_1 form _ => exact ⟨rfl, rfl, htrace⟩
    case h_2 e _ => exact ⟨rfl, rfl, List.rel_append htrace (.cons (.log _ _) .nil)⟩

theorem save_eq_of_post (h : ∀ url body, backend.post url body = backend'.post url body) :
    d.save backend st = d.save backend' st := by
  rw [save, EditSession.submit_eq_of_post h, ← save]

theorem perform_alike (hsecret : d.secret = some key)
    (hkey : d.session.entity.codec.lastTransform? key = none)
    (h : backend.AlikeExcept key backend') (op : Operation) :
    (d.perform op backend st).AlikeExcept key (d.perform op backend' st) := by
  cases op with
  | load id => exact (load_alike hsecret hkey h id).map _
  | save =>
    rw [perform, save_eq_of_post h.post, ← perform]
    exact .refl key _
  | setField | cancel => exact .refl key _

/-! ## Runs -/

/-- Two runs of the same operations on a details view, which begin alike and whose backends answer
alike but for the secret, have the same results, states and requests. -/
theorem forall₂_run (hsecret : d.secret = some key)
    (hkey : d.session.entity.codec.lastTransform? key = none)
    {ops ops' : List (Operation × Backend)}
    (h : List.Forall₂ (fun step step' ↦ step.1 = step'.1 ∧ step.2.AlikeExcept key step'.2) ops ops')
    (st : State) :
    List.Forall₂ (Outcome.AlikeExcept key) (d.run ops st) (d.run ops' st) := by
  induction h generalizing st with
  | nil => exact .nil
  | @cons step step' ops ops' hstep _ ih =>
    obtain ⟨op, backend⟩ := step
    obtain ⟨op', backend'⟩ := step'
    obtain ⟨rfl, hbackend⟩ := hstep
    have hperform : (d.perform op backend st).AlikeExcept key (d.perform op backend' st) :=
      perform_alike hsecret hkey hbackend op
    rw [run, run]
    refine .cons hperform ?_
    rw [hperform.state]
    exact ih _

end Details

/-! ## The password of an account -/

namespace UserAccount

open EditSession (Outcome State)

/--
What the backend has stored as the password of an account has no influence on the dialog for
accounts. Two runs of the same operations, whose backends answer alike but for the password in the
records that they give out, have the same results; they go through the same states, and so show the
same form, messages and title and the same marks of an administrator; and they send the same
requests with the same payloads.
-/
theorem run_alike_of_password (config : Config) {ops ops' : List (Details.Operation × Backend)}
    (h : List.Forall₂
      (fun step step' ↦ step.1 = step'.1 ∧ step.2.AlikeExcept "password" step'.2) ops ops')
    (st : State) :
    List.Forall₂ (Outcome.AlikeExcept "password") ((details (session config)).run ops st)
      ((details (session config)).run ops' st) :=
  Details.forall₂_run rfl rfl h st

/-- The backend with the single account, which keeps the password to itself. -/
def discreetBackend : Backend where
  get url :=
    if url = "/api/user/get/4" then
      .ok (Record.toJson (.ofList [("group", .text "ops"), ("id", .ofInt64 4), ("type", .ofInt64 0),
        ("username", .text "root"), ("validDays", .ofInt64 365)]))
    else .error (.status 404 ("no record at " ++ url))
  post _ _ := .ok .null

theorem alikeExcept_discreetBackend : sampleBackend.AlikeExcept "password" discreetBackend where
  get url := by
    rw [sampleBackend, discreetBackend]
    dsimp only
    split
    case isTrue => exact .records (by rfl)
    case isFalse => exact .same _
  post _ _ := rfl

/-- The account is loaded, renamed and saved, after one that cannot be loaded. -/
def sampleChange : List Details.Operation :=
  [.load (some 9), .save, .load (some 4), .setField "username" (.text "admin"), .save]

/-- It makes no difference to this run whether the password is given out. -/
theorem sampleChange_alike_of_password :
    List.Forall₂ (fun step step' ↦ step.1 = step'.1 ∧ step.2.AlikeExcept "password" step'.2)
        (sampleChange.map fun op ↦ (op, sampleBackend))
        (sampleChange.map fun op ↦ (op, discreetBackend)) ∧
      List.Forall₂ (Outcome.AlikeExcept "password")
        ((details (session .standard)).run (sampleChange.map fun op ↦ (op, sampleBackend))
          (session .standard).initial)
        ((details (session .standard)).run (sampleChange.map fun op ↦ (op, discreetBackend))
          (session .standard).initial) := by
  have hops : List.Forall₂
      (fun step step' ↦ step.1 = step'.1 ∧ step.2.AlikeExcept "password" step'.2)
      (sampleChange.map fun op ↦ (op, sampleBackend))
      (sampleChange.map fun op ↦ (op, discreetBackend)) := by
    rw [List.forall₂_map_left_iff, List.forall₂_map_right_iff, List.forall₂_same]
    exact fun _ _ ↦ ⟨rfl, alikeExcept_discreetBackend⟩
  exact ⟨hops, run_alike_of_password .standard hops _⟩

end UserAccount

end EntityForms
