import EntityForms.Proofs.Codec.RoundTrip
import EntityForms.Proofs.Details.Locked
import EntityForms.Proofs.EditSession.Required

/-!
# Saving what has been saved

A record that was sent is loaded from the backend and submitted again without a change. What is sent
the second time is what was sent the first time: nothing is left to settle after one save. Every
conversion on the way has to have reached a fixed point by then:

* The lists that were sent hold names, since they were taken from a text, so joining them and taking
  them apart again gives the same lists.
* Every other field was sent as the form had held it, so it passes validation as it did before.
* The typed reading does not mind the id, which is all that was added.

There is one exception. A text of delimiters and white space passes validation and is sent as the
empty list, which comes back as the empty text and is refused. So a source without tables can be
saved once and not again (`resubmission_of_source`).
-/

namespace EntityForms

namespace EditSession

variable {Wire : Type} {s : EditSession Wire} {backend : Backend} {st : State} {k : Int64}
  {w form body : Record}

/-! ## Loading and sending again -/

/-- A record that was loaded is sent as it is, where all its fields are sent and its lists hold
names. -/
theorem payload_of_parse (hid : st.id = some k) (hparse : s.entity.codec.parse w = .ok st.form)
    (hk : w.get? "id" = some (.ofInt64 k))
    (hsynced : ∀ f ∈ s.fields.fields, f.isSynced = true)
    (hnames : ∀ key t items, s.entity.codec.lastTransform? key = some t →
      w.get? key = some (.ofTexts items) → ∀ item ∈ items, Text.IsName t.delimiter item)
    (hread : ∃ typed, s.entity.decodeWire w = .ok typed) : s.payload st = .ok w := by
  have hwire := Codec.stringify_of_parse hparse hnames
  refine payload_eq_ok_iff.mpr ⟨w, hwire, ?_, hread⟩
  refine Dictionary.ext_get? fun key ↦ ?_
  rw [hid, Option.map_some, Dictionary.insertSome, Dictionary.get?_insert]
  split
  case isTrue hkey => rw [← hkey, hk]
  case isFalse =>
    rw [FieldTable.get?_syncFilter, if_pos (FieldTable.all_isSynced_get? hsynced key)]

end EditSession

/-! ## Sources -/

namespace PostgresSource

open EditSession (State)

variable {config : Config} {st : State} {p : Record} {text : String} {f : Field}

theorem lastTransform?_tables :
    entityClass.codec.lastTransform? "tableNameList" = some { field := "tableNameList" } := rfl

theorem lastTransform?_of_ne {key : String} (h : key ≠ "tableNameList") :
    entityClass.codec.lastTransform? key = none := by
  refine ListTransform.lastFor?_eq_none_iff.mpr fun t ht ↦ ?_
  obtain rfl : t = { field := "tableNameList" } := List.mem_singleton.mp ht
  exact h.symm

theorem isSynced_of_mem_fields (h : f ∈ fields) : f.isSynced = true := by
  have hall : fields.all Field.isSynced = true := by rfl
  exact List.all_eq_true.mp hall f h

/-- The fields of a source other than its tables. -/
def otherFields : List Field := fields.take 6 ++ fields.drop 7

theorem fields_eq_append : fields = fields.take 6 ++ tableNamesField :: fields.drop 7 := rfl

theorem mem_fields_of_mem_otherFields (h : f ∈ otherFields) : f ∈ fields :=
  (List.mem_append.mp h).elim List.mem_of_mem_take List.mem_of_mem_drop

theorem name_of_mem_otherFields (h : f ∈ otherFields) :
    f.name ≠ "id" ∧ f.name ≠ "tableNameList" := by
  have hall : otherFields.all (fun f ↦ f.name ≠ "id" ∧ f.name ≠ "tableNameList") = true := by rfl
  simpa using List.all_eq_true.mp hall f h

theorem error?_tableNamesField {r : Record} {l : Localizer}
    (h : r.get? "tableNameList" = some (.text text)) :
    tableNamesField.error? r l = if Text.allBlank text then
      some ⟨"tableNameList", l.display tableNamesField.labelKey ++ " is required"⟩ else none := by
  have hget : r.get? tableNamesField.name = some (.text text) := h
  have hcheck : tableNamesField.rules.check (some (.text text)) =
      if Text.allBlank text then .error .required else .ok () := Rules.check_required_text text
  rw [Field.error?, hget]
  unfold Field.problem?
  rw [hcheck]
  cases Text.allBlank text <;> rfl

theorem get?_payload_of_text (h : (session config).payload st = .ok p)
    (htext : st.form.get? "tableNameList" = some (.text text)) :
    p.get? "tableNameList" = some (.ofTexts (Text.splitNames ',' text)) ∧
      ∀ f ∈ otherFields, p.get? f.name = st.form.get? f.name := by
  have hall : ∀ key, ((session config).fields.get? key).all Field.isSynced = true :=
    FieldTable.all_isSynced_get? fun f ↦ isSynced_of_mem_fields
  obtain ⟨wire, hwire, hget⟩ := EditSession.get?_payload h
  constructor
  · obtain ⟨shape, hshape, hlist⟩ := Codec.get?_stringify_of_some hwire lastTransform?_tables
    rw [htext, ListShape.ofValue_eq_ui_iff.mpr rfl] at hshape
    obtain rfl := Except.ok.inj hshape
    rw [hget "tableNameList" (.inl (by decide)), if_pos (hall _), hlist]
    rfl
  · intro f hf
    obtain ⟨hid, htables⟩ := name_of_mem_otherFields hf
    rw [hget f.name (.inl hid), if_pos (hall _),
      Codec.get?_stringify_of_none hwire (lastTransform?_of_ne htables)]

/-- A source that was sent is loaded under an id: the tables come back as the names that were in
the text, and nothing is wrong with any other field. -/
theorem parse_of_submit {backend : Backend} (k : Int64)
    (htext : st.form.get? "tableNameList" = some (.text text))
    (hsubmit : ((session config).submit backend st).result = .ok p) :
    ∃ form, entityClass.codec.parse (p.insert "id" (.ofInt64 k)) = .ok form ∧
      form.get? "tableNameList" =
        some (.text (Text.joinNames ',' (Text.splitNames ',' text))) ∧
      ∀ f ∈ otherFields, f.error? form (session config).localizer = none := by
  obtain ⟨hvalid, hpayload⟩ := EditSession.sent_of_submit hsubmit
  obtain ⟨hlist, hothers⟩ := get?_payload_of_text hpayload htext
  have hstored : Dictionary.get? (p.insert "id" (.ofInt64 k)) "tableNameList" =
      some (.ofTexts (Text.splitNames ',' text)) := by
    rw [Dictionary.get?_insert_of_ne p (by decide), hlist]
  obtain ⟨form, hparse⟩ : ∃ form, entityClass.codec.parse (p.insert "id" (.ofInt64 k)) = .ok form :=
    Codec.exists_parse (List.forall_mem_singleton.mpr ⟨_, hstored⟩)
  obtain ⟨items, hitems, htables⟩ := Codec.exists_items_of_parse hparse lastTransform?_tables
  rw [hstored, Option.some.injEq, Json.ofTexts_inj] at hitems
  subst hitems
  refine ⟨form, hparse, htables, fun f hf ↦ ?_⟩
  obtain ⟨hid, hne⟩ := name_of_mem_otherFields hf
  have hform : form.get? f.name = st.form.get? f.name := by
    rw [Codec.get?_parse_of_none hparse (lastTransform?_of_ne hne),
      Dictionary.get?_insert_of_ne p hid.symm, hothers f hf]
  rw [Field.error?_congr hform]
  refine FieldTable.validate_eq_nil_iff.mp hvalid f ?_
  rw [formFields_session]
  exact mem_fields_of_mem_otherFields hf

theorem payload_of_resubmission {st' : State} {k : Int64}
    (hpayload : (session config).payload st = .ok p)
    (htext : st.form.get? "tableNameList" = some (.text text)) (hid : st'.id = some k)
    (hparse : entityClass.codec.parse (p.insert "id" (.ofInt64 k)) = .ok st'.form) :
    (session config).payload st' = .ok (p.insert "id" (.ofInt64 k)) := by
  have hlists : ∀ key t items, entityClass.codec.lastTransform? key = some t →
      Dictionary.get? (p.insert "id" (.ofInt64 k)) key = some (.ofTexts items) →
      ∀ item ∈ items, Text.IsName t.delimiter item := by
    intro key t items ht hitems
    by_cases hkey : key = "tableNameList"
    · subst hkey
      obtain rfl := Option.some.inj (lastTransform?_tables.symm.trans ht)
      rw [Dictionary.get?_insert_of_ne p (by decide), (get?_payload_of_text hpayload htext).1,
        Option.some.injEq, Json.ofTexts_inj] at hitems
      subst hitems
      exact fun name ↦ Text.isName_of_mem_splitNames
    · rw [lastTransform?_of_ne hkey] at ht
      cases ht
  obtain ⟨_, -, -, source, hread⟩ := EditSession.payload_eq_ok_iff.mp hpayload
  have hread' : entityClass.decodeWire (p.insert "id" (.ofInt64 k)) =
      .ok { source with id := some k } :=
    Except.mapError_eq_ok_iff.mpr (read_insert_id (Except.mapError_eq_ok_iff.mp hread) k)
  exact EditSession.payload_of_parse hid hparse (Dictionary.get?_insert_self _ _ _)
    (fun f ↦ isSynced_of_mem_fields) hlists ⟨_, hread'⟩

/--
A source is saved whose tables were entered as a text, whatever else the form holds. If the backend
then stores what it was sent under an id, the source can be opened under that id. Submitted at once,
it is sent again with the same content; but if the text had no names in it, then it is refused, and
the tables are all that is wrong with it.
-/
theorem resubmission_of_source (config : Config) (st st' : State) {backend reload : Backend}
    {p : Record} {text : String} {k : Int64}
    (htext : st.form.get? "tableNameList" = some (.text text))
    (hsubmit : ((session config).submit backend st).result = .ok p)
    (hfetch : (session config).fetch reload k = .ok (p.insert "id" (.ofInt64 k))) :
    let opened := (session config).openRecord reload (some k) st'
    opened.result = .ok () ∧
      ∃ names, p.get? "tableNameList" = some (.ofTexts names) ∧
        (names ≠ [] → ∀ again reply,
          again.post ((session config).url (entityClass.endpoints.savePath (some k)))
            (p.insert "id" (.ofInt64 k)) = .ok reply →
          ((session config).submit again opened.state).result =
            .ok (p.insert "id" (.ofInt64 k))) ∧
        (names = [] → ∀ again, ∃ message,
          ((session config).submit again opened.state).result =
            .error (.validation [⟨"tableNameList", message⟩])) := by
  intro opened
  obtain ⟨-, hpayload⟩ := EditSession.sent_of_submit hsubmit
  have hlist := (get?_payload_of_text hpayload htext).1
  obtain ⟨form, hparse, htables, hothers⟩ := parse_of_submit k htext hsubmit
  have hopened : opened = _ := EditSession.openRecord_of_fetch hfetch hparse st'
  clear_value opened
  subst hopened
  have hnames : ∀ name ∈ Text.splitNames ',' text, Text.IsName ',' name :=
    fun name ↦ Text.isName_of_mem_splitNames
  -- what is wrong with the form that was loaded is what is wrong with its tables
  have hvalid : (session config).fields.validate .edit form (session config).localizer =
      (if Text.splitNames ',' text = [] then some ⟨"tableNameList",
        (session config).localizer.display tableNamesField.labelKey ++ " is required"⟩
        else none : Option FieldError).toList := by
    rw [FieldTable.validate_eq_toList ((formFields_session config .edit).trans fields_eq_append)
      hothers, error?_tableNamesField htables]
    simp only [Text.allBlank_joinNames_iff hnames]
  refine ⟨rfl, _, hlist, fun hsome again reply hpost ↦ ?_, fun hnone again ↦ ?_⟩
  · rw [if_neg hsome] at hvalid
    refine EditSession.result_submit_of_post _ rfl rfl hvalid ?_ hpost
    exact payload_of_resubmission hpayload htext rfl hparse
  · rw [if_pos hnone] at hvalid
    exact ⟨_, EditSession.result_submit_of_invalid _ _ rfl rfl (List.cons_ne_nil _ _) hvalid⟩

/-- A backend that has stored one record and accepts what it is sent. -/
def storing (r : Record) : Backend where
  get _ := .ok r.toJson
  post _ _ := .ok .null

theorem fetch_storing (config : Config) (r : Record) (k : Int64) :
    (session config).fetch (storing r) k = .ok r :=
  EditSession.fetch_of_get rfl

set_option maxRecDepth 8000 in
/-- The edited source is stored under another id, and saving it once more changes nothing. A source
whose tables were replaced by commas is stored, and it cannot be saved again. -/
theorem resubmission_of_sampleEdits :
    let s := session .standard
    let edited := s.stateAfter ((.openRecord (some 5), sampleBackend) :: sampleEdits) s.initial
    let emptied := s.stateAfter sampleCommas s.initial
    let copy : Record := sampleUpdate.insert "id" (.ofInt64 7)
    let bare : Record := (sampleRecord.insert "tableNameList" (.ofTexts [])).insert "id"
      (.ofInt64 7)
    (s.submit (storing copy) (s.openRecord (storing copy) (some 7) edited).state).result =
        .ok copy ∧
      ∃ message, (s.submit (storing bare)
        (s.openRecord (storing bare) (some 7) emptied).state).result =
          .error (.validation [⟨"tableNameList", message⟩]) := by
  intro s edited emptied copy bare
  constructor
  · have htext : edited.form.get? "tableNameList" = some (.text "orders, , users ") := by
      subst edited s
      rfl
    have hsubmit : (s.submit sampleBackend edited).result = .ok sampleUpdate := by
      subst edited s
      rfl
    obtain ⟨-, names, hnames, hagain, -⟩ := resubmission_of_source .standard edited edited htext
      hsubmit (fetch_storing .standard copy 7)
    have hsent : sampleUpdate.get? "tableNameList" = some (.ofTexts ["orders", "users"]) := by rfl
    rw [hsent, Option.some.injEq, Json.ofTexts_inj] at hnames
    exact hagain (hnames ▸ List.cons_ne_nil _ _) (storing copy) .null rfl
  · have htext : emptied.form.get? "tableNameList" = some (.text ", ,") := by
      subst emptied s
      rfl
    have hsubmit : (s.submit sampleBackend emptied).result =
        .ok (sampleRecord.insert "tableNameList" (.ofTexts [])) := by
      subst emptied s
      rfl
    obtain ⟨-, names, hnames, -, hagain⟩ := resubmission_of_source .standard emptied emptied htext
      hsubmit (fetch_storing .standard bare 7)
    rw [Dictionary.get?_insert_self, Option.some.injEq, Json.ofTexts_inj] at hnames
    exact hagain hnames.symm (storing bare)

end PostgresSource

end EntityForms
