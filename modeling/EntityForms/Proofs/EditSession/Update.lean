import EntityForms.Details
import EntityForms.Proofs.EditSession.History

/-!
# What an update writes

A record is opened, its fields are edited, and the form is submitted, perhaps more than once. The
payload of the last submission is described key by key (`IsUpdateOf`): a key holds what was loaded,
or the last input to it, as the codec writes it for the backend. Four conversions stand between the
stored record and the payload, and each touches keys by a rule of its own:

* parsing replaces the transformed fields and keeps every key;
* an input replaces the value of one declared field;
* writing for the wire replaces the transformed fields again;
* declared fields that are not sent are dropped, and the id is put in.

The induction is over the edits in between, and is on the value of one key: `valueAfter` is what the
run makes of it.
-/

namespace EntityForms.EditSession

variable {Wire : Type} {s : EditSession Wire}

/-! ## The value of a key under edits -/

/-- The operations of an edit: the form is changed field by field, and it is submitted. -/
def Operation.IsEdit : Operation → Prop
  | .setField _ _ | .submit => True
  | _ => False

/-- The inputs that a run has for a field, first to last. -/
def inputsTo (key : String) (ops : List (Operation × Backend)) : List Json :=
  ops.filterMap fun step ↦ match step.1 with
    | .setField name input => if name = key then some input else none
    | _ => none

/-- The value of a key after a run of edits. Only a declared field takes its inputs; the last of
them stays, in the form in which the field stores it. -/
def valueAfter (s : EditSession Wire) (ops : List (Operation × Backend)) (key : String)
    (v : Option Json) : Option Json :=
  match s.fields.get? key, (inputsTo key ops).getLast? with
  | some f, some input => some (f.coerce input)
  | _, _ => v

theorem valueAfter_nil (key : String) (v : Option Json) : s.valueAfter [] key v = v := by
  cases hf : s.fields.get? key <;> simp [valueAfter, inputsTo, hf]

theorem valueAfter_of_undeclared {key : String} (h : s.fields.get? key = none)
    (ops : List (Operation × Backend)) (v : Option Json) : s.valueAfter ops key v = v := by
  rw [valueAfter, h]

theorem valueAfter_cons_submit (backend : Backend) (ops : List (Operation × Backend))
    (key : String) (v : Option Json) :
    s.valueAfter ((.submit, backend) :: ops) key v = s.valueAfter ops key v := rfl

theorem valueAfter_cons_setField_of_ne {name key : String} (h : name ≠ key) (input : Json)
    (backend : Backend) (ops : List (Operation × Backend)) (v : Option Json) :
    s.valueAfter ((.setField name input, backend) :: ops) key v = s.valueAfter ops key v := by
  have hinputs : inputsTo key ((.setField name input, backend) :: ops) = inputsTo key ops := by
    simp [inputsTo, h]
  rw [valueAfter, hinputs, ← valueAfter]

theorem valueAfter_cons_setField_self (key : String) (input : Json) (backend : Backend)
    (ops : List (Operation × Backend)) (v : Option Json) :
    s.valueAfter ((.setField key input, backend) :: ops) key v =
      s.valueAfter ops key (((s.fields.get? key).map fun f ↦ f.coerce input).or v) := by
  have hinputs : inputsTo key ((.setField key input, backend) :: ops) =
      input :: inputsTo key ops := by
    simp [inputsTo]
  rw [valueAfter, valueAfter, hinputs, List.getLast?_cons]
  cases s.fields.get? key with
  | none => rfl
  | some f => cases (inputsTo key ops).getLast? <;> rfl

/-- A run of edits changes the form key by key. -/
theorem get?_form_stateAfter {ops : List (Operation × Backend)}
    (hops : ∀ step ∈ ops, step.1.IsEdit) (st : State) (key : String) :
    (s.stateAfter ops st).form.get? key = s.valueAfter ops key (st.form.get? key) := by
  induction ops generalizing st with
  | nil => rw [stateAfter_nil, valueAfter_nil]
  | cons step ops ih =>
    obtain ⟨op, backend⟩ := step
    have hrest := ih fun step hstep ↦ hops step (List.mem_cons_of_mem _ hstep)
    rw [stateAfter_cons, hrest]
    cases op with
    | openRecord | clearField | resetForm | close => exact (hops _ List.mem_cons_self).elim
    | submit =>
      rw [valueAfter_cons_submit, perform, Outcome.map, form_submit]
    | setField name input =>
      rw [perform, Outcome.map]
      by_cases hname : name = key
      · subst hname
        rw [valueAfter_cons_setField_self, get?_form_setField_self]
      · rw [valueAfter_cons_setField_of_ne hname, get?_form_setField_of_ne s st hname]

theorem eq_some_of_valueAfter {ops : List (Operation × Backend)} {key : String} {v : Option Json}
    {v' : Json} (h : s.valueAfter ops key v = some v') :
    v = some v' ∨ s.fields.contains key = true ∧ inputsTo key ops ≠ [] := by
  rw [valueAfter] at h
  split at h
  case h_1 f input hf hinput =>
    refine .inr ⟨FieldTable.contains_iff_get?.mpr ⟨_, hf⟩, fun hnil ↦ ?_⟩
    rw [hnil] at hinput
    cases hinput
  case h_2 => exact .inl h

theorem Operation.IsEdit.ne_openRecord {op : Operation} (h : op.IsEdit) (k : Option Int64) :
    op ≠ .openRecord k := by
  rintro rfl
  exact h

/-! ## The payload of an update -/

/-- What `body` holds when the stored record `w`, which is `form` in the shape of the form, has been
opened under the id `k`, edited by the run and submitted. -/
structure IsUpdateOf (s : EditSession Wire) (k : Int64) (w form : Record)
    (ops : List (Operation × Backend)) (body : Record) : Prop where
  id : body.get? "id" = some (.ofInt64 k)
  /-- A declared field that is not sent is absent. -/
  notSent : ∀ key f, key ≠ "id" → s.fields.get? key = some f → f.isSynced = false →
    body.get? key = none
  /-- A transformed field is the list that its last transform makes of its value. -/
  transformed : ∀ key t, key ≠ "id" → (s.fields.get? key).all Field.isSynced = true →
    s.entity.codec.lastTransform? key = some t →
    ∃ shape, ListShape.ofValue key (s.valueAfter ops key (form.get? key)) = .ok shape ∧
      body.get? key = some (.ofTexts (shape.toWire t.delimiter))
  /-- Any other key has its value, or is absent with it. -/
  plain : ∀ key, key ≠ "id" → (s.fields.get? key).all Field.isSynced = true →
    s.entity.codec.lastTransform? key = none →
    body.get? key = s.valueAfter ops key (form.get? key)
  /-- What the entity does not know of is sent back as it was stored. -/
  undeclared : ∀ key, key ≠ "id" → s.fields.get? key = none →
    s.entity.codec.lastTransform? key = none → body.get? key = w.get? key
  /-- No key appears that was neither stored nor entered. -/
  keys : ∀ key, body.contains key = true → key = "id" ∨ w.contains key = true ∨
    s.fields.contains key = true ∧ inputsTo key ops ≠ []

theorem isUpdateOf_of_payload {st : State} {k : Int64} {w form body : Record}
    {ops : List (Operation × Backend)} (hid : st.id = some k)
    (hparse : s.entity.codec.parse w = .ok form)
    (hform : ∀ key, st.form.get? key = s.valueAfter ops key (form.get? key))
    (hpayload : s.payload st = .ok body) : s.IsUpdateOf k w form ops body := by
  obtain ⟨wire, hwire, hget⟩ := get?_payload hpayload
  have hsent : ∀ key, key ≠ "id" → (s.fields.get? key).all Field.isSynced = true →
      body.get? key = wire.get? key := fun key hkey hsynced ↦ by
    rw [hget key (.inl hkey), if_pos hsynced]
  have hplain : ∀ key, key ≠ "id" → (s.fields.get? key).all Field.isSynced = true →
      s.entity.codec.lastTransform? key = none →
      body.get? key = s.valueAfter ops key (form.get? key) := fun key hkey hsynced ht ↦ by
    rw [hsent key hkey hsynced, Codec.get?_stringify_of_none hwire ht, hform]
  refine ⟨get?_payload_id hpayload hid, ?_, ?_, hplain, ?_, ?_⟩
  · intro key f hkey hf hsynced
    rw [hget key (.inl hkey), hf, Option.all_some, hsynced, if_neg Bool.false_ne_true]
  · intro key t hkey hsynced ht
    rw [← hform, hsent key hkey hsynced]
    exact Codec.get?_stringify_of_some hwire ht
  · intro key hkey hf ht
    rw [hplain key hkey (by rw [hf]; rfl) ht, valueAfter_of_undeclared hf,
      Codec.get?_parse_of_none hparse ht]
  · intro key hcontains
    by_cases hkey : key = "id"
    · exact .inl hkey
    · right
      rw [contains_payload hpayload (.inl hkey), Bool.and_eq_true] at hcontains
      obtain ⟨v, hv⟩ := Dictionary.contains_iff.mp hcontains.2
      rw [hform] at hv
      rcases eq_some_of_valueAfter hv with hloaded | hentered
      -- parsing adds no key, so what was loaded was stored
      · rw [← Codec.contains_parse hparse]
        exact .inl (Dictionary.contains_iff.mpr ⟨v, hloaded⟩)
      · exact .inr hentered

/--
A run opens the record `w` under the id `k` and edits it, with accepted and refused inputs and with
submissions that succeed or fail. Whatever the session held before, a submission that then succeeds
has sent `w` with the edits, and nothing else.
-/
theorem isUpdateOf_of_submit (s : EditSession Wire) (st : State) {k : Int64}
    {backend backend' : Backend} {w body : Record} {ops : List (Operation × Backend)}
    (hfetch : s.fetch backend k = .ok w)
    (hopen : (s.openRecord backend (some k) st).result = .ok ())
    (hops : ∀ step ∈ ops, step.1.IsEdit)
    (hsubmit : (s.submit backend'
      (s.stateAfter ((.openRecord (some k), backend) :: ops) st)).result = .ok body) :
    ∃ form, s.entity.codec.parse w = .ok form ∧ s.IsUpdateOf k w form ops body := by
  obtain ⟨w', hw', hparse⟩ := form_openRecord_some hopen
  -- the record that was parsed is the one that the backend answered
  obtain rfl : w = w' := Except.ok.inj (hfetch.symm.trans hw')
  refine ⟨_, hparse, isUpdateOf_of_payload ?_ hparse ?_ (payload_of_submit hsubmit)⟩
  · rw [stateAfter_cons,
      (id_and_loaded_stateAfter fun step hstep ↦ (hops step hstep).ne_openRecord).1]
    exact s.id_openRecord backend st (some k)
  · intro key
    rw [stateAfter_cons, get?_form_stateAfter hops]
    rfl

end EntityForms.EditSession

namespace EntityForms

open EditSession (Operation)

namespace PostgresSource

/-- A stored source that belongs to a group. -/
def sampleRecord : Record := .ofList [("database", .text "shop"),
  ("decodingPluginName", .text "pgoutput"), ("hostname", .text "pg.local"), ("id", .ofInt64 5),
  ("inlongGroupId", .text "g1"), ("password", .text "secret"), ("port", .ofInt64 5433),
  ("schema", .text "public"), ("status", .ofInt64 130),
  ("tableNameList", .ofTexts ["orders", "items"]), ("username", .text "reader")]

/-- A backend that knows the one source and accepts what it is sent. -/
def sampleBackend : Backend where
  get url :=
    if url = "/api/source/get/5" then .ok sampleRecord.toJson
    else .error (.status 404 ("no record at " ++ url))
  post _ _ := .ok .null

/-- The same backend while it cannot be reached. -/
def unreachable : Backend where
  get _ := .error (.network "offline")
  post _ _ := .error (.network "offline")

/-- The tables of the source are changed twice, and it cannot be saved at first. -/
def sampleEdits : List (Operation × Backend) :=
  [(.setField "tableNameList" (.text "orders"), sampleBackend), (.submit, unreachable),
    (.setField "inlongGroupId" (.text "g2"), sampleBackend),
    (.setField "tableNameList" (.text "orders, , users "), sampleBackend)]

/-- What is sent of the source after these edits. -/
def sampleUpdate : Record := .ofList [("database", .text "shop"),
  ("decodingPluginName", .text "pgoutput"), ("hostname", .text "pg.local"), ("id", .ofInt64 5),
  ("inlongGroupId", .text "g1"), ("password", .text "secret"), ("port", .ofInt64 5433),
  ("schema", .text "public"), ("status", .ofInt64 130),
  ("tableNameList", .ofTexts ["orders", "users"]), ("username", .text "reader")]

set_option maxRecDepth 8000 in
/-- The edited source is sent with its new tables and in its old group. -/
theorem isUpdateOf_of_sampleEdits :
    ∃ form, entityClass.codec.parse sampleRecord = .ok form ∧
      (session .standard).IsUpdateOf 5 sampleRecord form sampleEdits sampleUpdate := by
  have hurl : (session .standard).url (entityClass.endpoints.getPath 5) = "/api/source/get/5" := by
    decide +kernel
  have hfetch : (session .standard).fetch sampleBackend 5 = .ok sampleRecord := by
    refine EditSession.fetch_of_get ?_
    change sampleBackend.get ((session .standard).url (entityClass.endpoints.getPath 5)) = _
    rw [hurl]
    rfl
  have hopen : ((session .standard).openRecord sampleBackend (some 5)
      (session .standard).initial).result = .ok () := by rfl
  have hops : ∀ step ∈ sampleEdits, step.1.IsEdit := by simp [sampleEdits, Operation.IsEdit]
  have hsubmit : ((session .standard).submit sampleBackend ((session .standard).stateAfter
      ((.openRecord (some 5), sampleBackend) :: sampleEdits) (session .standard).initial)).result =
        .ok sampleUpdate := by rfl
  exact (session .standard).isUpdateOf_of_submit _ hfetch hopen hops hsubmit

end PostgresSource

/-! ## A list that is transformed without being declared -/

/-- An entity whose codec transforms a field that the entity does not declare. -/
def undeclaredList : EntityClass Record where
  info := ⟨"x001", "Custom", "custom.Element", "custom.List"⟩
  fields := [{ name := "name", control := .input, labelKey := "custom.Name", isSynced := true }]
  codec := ⟨[{ field := "tags" }]⟩
  endpoints := ⟨"/x/\x7bid\x7d", "/x/new", "/x/upd"⟩
  read := .ok

/-- The session of that entity. -/
def undeclaredList.session : EditSession Record where
  entity := undeclaredList
  config := .standard
  fields := .ofFields "Custom" undeclaredList.fields (by decide +kernel) (by decide +kernel)
  fields_eq := FieldTable.build_eq_ok_iff.mpr ⟨rfl, rfl⟩

/-- A record with one tag, which has a comma in it. -/
def undeclaredList.record : Record :=
  .ofList [("name", .text "n"), ("tags", .ofTexts ["a,b"])]

/-- A backend that gives out that record. -/
def undeclaredList.backend : Backend where
  get _ := .ok undeclaredList.record.toJson
  post _ _ := .ok .null

open undeclaredList in
/-- A list that the entity transforms without declaring it is not sent back as it was stored: an
item with a delimiter in it is taken apart. -/
theorem undeclared_list_split :
    ∃ body, session.fetch backend 5 = .ok record ∧
      (session.openRecord backend (some 5) session.initial).result = .ok () ∧
      (session.submit backend
        (session.stateAfter [(.openRecord (some 5), backend)] session.initial)).result = .ok body ∧
      session.fields.get? "tags" = none ∧ body.get? "tags" ≠ record.get? "tags" := by
  let body : Record := .ofList [("id", .ofInt64 5), ("name", .text "n"),
    ("tags", .ofTexts ["a", "b"])]
  have hfetch : session.fetch backend 5 = .ok record := EditSession.fetch_of_get rfl
  have hopen : (session.openRecord backend (some 5) session.initial).result = .ok () := by rfl
  have hsubmit : (session.submit backend (session.stateAfter
      [(.openRecord (some 5), backend)] session.initial)).result = .ok body := by rfl
  have hfield : session.fields.get? "tags" = none := by rfl
  have hbody : body.get? "tags" = some (.ofTexts ["a", "b"]) := by rfl
  have hrecord : record.get? "tags" = some (.ofTexts ["a,b"]) := by rfl
  refine ⟨body, hfetch, hopen, hsubmit, hfield, ?_⟩
  rw [hbody, hrecord]
  simp [Json.ofTexts]

end EntityForms
