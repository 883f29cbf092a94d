import EntityForms.Proofs.EditSession.Update
import EntityForms.Proofs.Form.Validation
import EntityForms.Proofs.Text.Pieces

/-!
# Required fields in what is sent

A form is validated before it is taken to the wire. A required field that the form shows therefore
has a value that is not blank when the form is submitted, and most of what happens afterwards keeps
it so: a field without a transform is sent as it is, a list as a list, and the id is put in.

A text that stands for a list is the exception. It is not blank because of its delimiters, and they
are what the codec takes out, so a text of delimiters and white space passes as a value and is sent
as the empty list. That is the only way in which a required field can be blank in what is sent
(`isBlankValue_of_submit_iff`).
-/

namespace EntityForms

namespace EditSession

variable {Wire : Type} {s : EditSession Wire} {st : State} {backend : Backend} {body : Record}
  {f : Field}

/-- Where a field of the form is not blank, what is sent of it is blank only if it was a text of
delimiters and white space. -/
theorem isBlankValue_payload_iff (hpayload : s.payload st = .ok body) {key : String}
    (hkey : key ≠ "id" ∨ st.id = none) (hsynced : (s.fields.get? key).all Field.isSynced = true)
    (hvalue : isBlankValue (st.form.get? key) = false) :
    isBlankValue (body.get? key) = true ↔
      ∃ t text, s.entity.codec.lastTransform? key = some t ∧
        st.form.get? key = some (.text text) ∧
        ∀ c ∈ text.toList, Text.isBlank c = true ∨ c = t.delimiter := by
  obtain ⟨wire, hwire, hget⟩ := get?_payload hpayload
  rw [hget key hkey, if_pos hsynced]
  cases ht : s.entity.codec.lastTransform? key with
  | none =>
    rw [Codec.get?_stringify_of_none hwire ht, hvalue]
    simp
  | some t =>
    obtain ⟨shape, hshape, hlist⟩ := Codec.get?_stringify_of_some hwire ht
    rw [hlist, isBlankValue_ofTexts, List.isEmpty_iff]
    cases shape with
    | wire items =>
      -- a list is sent as it is, and it was not empty
      rw [ListShape.ofValue_eq_wire_iff] at hshape
      rw [hshape, isBlankValue_ofTexts, List.isEmpty_eq_false_iff] at hvalue
      refine iff_of_false hvalue ?_
      rintro ⟨_, text, -, htext, -⟩
      rw [hshape, Json.ofTexts] at htext
      cases htext
    | ui text =>
      rw [ListShape.ofValue_eq_ui_iff] at hshape
      rw [ListShape.toWire, Text.splitNames_eq_nil_iff]
      constructor
      · exact fun hblank ↦ ⟨t, text, rfl, hshape, hblank⟩
      · rintro ⟨t', text', ht', htext, hblank⟩
        rw [hshape, Option.some.injEq, Json.text.injEq] at htext
        rw [htext, Option.some.inj ht']
        exact hblank

/--
A record is sent, in whatever state the run has led to. A required field that the form shows and
that is sent has a value there, unless it is a list that was entered as a text without a name in it:
nothing but delimiters and white space. The id of an existing record is put in on any account.
-/
theorem isBlankValue_of_submit_iff (s : EditSession Wire) (st : State) (backend : Backend)
    {body : Record} {f : Field} (hsubmit : (s.submit backend st).result = .ok body)
    (hf : f ∈ s.fields.formFields st.mode) (hrequired : f.rules.required = true)
    (hsynced : f.isSynced = true) :
    isBlankValue (body.get? f.name) = true ↔
      (f.name ≠ "id" ∨ st.id = none) ∧
        ∃ t text, s.entity.codec.lastTransform? f.name = some t ∧
          st.form.get? f.name = some (.text text) ∧
          ∀ c ∈ text.toList, Text.isBlank c = true ∨ c = t.delimiter := by
  obtain ⟨hvalid, hpayload⟩ := sent_of_submit hsubmit
  have hvalue := FieldTable.isBlankValue_of_validate hvalid hf hrequired
  have hall : (s.fields.get? f.name).all Field.isSynced = true := by
    rw [FieldTable.get?_of_mem (FieldTable.mem_of_mem_formFields hf), Option.all_some, hsynced]
  by_cases hkey : f.name ≠ "id" ∨ st.id = none
  · rw [isBlankValue_payload_iff hpayload hkey hall hvalue, and_iff_right hkey]
  · refine iff_of_false ?_ fun h ↦ hkey h.1
    obtain ⟨hid, hold⟩ := not_or.mp hkey
    obtain ⟨k, hk⟩ := Option.ne_none_iff_exists'.mp hold
    rw [not_not.mp hid, get?_payload_id hpayload hk]
    simp [isBlankValue, Json.isBlank, Json.ofInt64]

end EditSession

/-! ## The tables of a source -/

namespace PostgresSource

/-- The field for the names of the tables. -/
def tableNamesField : Field :=
  { requiredText "tableNameList" "meta.Sources.PostgreSQL.TableName" with
    tooltipKey := some "meta.Sources.PostgreSQL.TableNameHelp" }

theorem tableNamesField_mem_formFields (config : Config) (mode : Mode) :
    tableNamesField ∈ (session config).fields.formFields mode :=
  List.mem_filter.mpr ⟨List.mem_of_getElem? (i := 6) rfl, by cases mode <;> rfl⟩

set_option maxRecDepth 8000 in
/-- Among delimiters and blanks there are names in the tables that were entered, so the tables are
not blank in what is sent. -/
theorem tables_sent_of_sampleEdits :
    ((session .standard).submit sampleBackend ((session .standard).stateAfter
        ((.openRecord (some 5), sampleBackend) :: sampleEdits)
        (session .standard).initial)).result = .ok sampleUpdate ∧
      isBlankValue (sampleUpdate.get? tableNamesField.name) = false := by
  have hsubmit : ((session .standard).submit sampleBackend ((session .standard).stateAfter
      ((.openRecord (some 5), sampleBackend) :: sampleEdits)
      (session .standard).initial)).result = .ok sampleUpdate := by rfl
  have hentered : ((session .standard).stateAfter
      ((.openRecord (some 5), sampleBackend) :: sampleEdits)
      (session .standard).initial).form.get? "tableNameList" =
        some (.text "orders, , users ") := by rfl
  refine ⟨hsubmit, Bool.eq_false_iff.mpr fun hblank ↦ ?_⟩
  obtain ⟨-, t, text, ht, htext, hchars⟩ :=
    ((session .standard).isBlankValue_of_submit_iff _ sampleBackend hsubmit
      (tableNamesField_mem_formFields .standard _) rfl rfl).mp hblank
  obtain rfl : { field := "tableNameList" } = t := Option.some.inj ht
  have htext' := hentered.symm.trans htext
  rw [Option.some.injEq, Json.text.injEq] at htext'
  subst htext'
  exact absurd (hchars 'o' (by decide)) (by decide)

/-- A stored source is opened, and its tables are replaced by commas. -/
def sampleCommas : List (EditSession.Operation × Backend) :=
  [(.openRecord (some 5), sampleBackend), (.setField "tableNameList" (.text ", ,"), sampleBackend)]

set_option maxRecDepth 8000 in
/-- The tables are a required field that is shown and sent. Commas are accepted for them, and the
source is saved with the empty list. -/
theorem empty_list_sent_for_commas :
    ∃ body, ((session .standard).submit sampleBackend ((session .standard).stateAfter sampleCommas
        (session .standard).initial)).result = .ok body ∧
      tableNamesField ∈ (session .standard).fields.formFields ((session .standard).stateAfter
        sampleCommas (session .standard).initial).mode ∧
      tableNamesField.rules.required = true ∧ tableNamesField.isSynced = true ∧
      body.get? tableNamesField.name = some (.ofTexts []) ∧
      isBlankValue (body.get? tableNamesField.name) = true := by
  let body : Record := sampleRecord.insert "tableNameList" (.ofTexts [])
  have hsubmit : ((session .standard).submit sampleBackend ((session .standard).stateAfter
      sampleCommas (session .standard).initial)).result = .ok body := by rfl
  have hsent : body.get? tableNamesField.name = some (.ofTexts []) :=
    Dictionary.get?_insert_self _ _ _
  refine ⟨body, hsubmit, tableNamesField_mem_formFields _ _, rfl, rfl, hsent, ?_⟩
  rw [hsent, isBlankValue_ofTexts, List.isEmpty_nil]

end PostgresSource

end EntityForms
