import EntityForms.Proofs.Details.History
import EntityForms.Proofs.EditSession.Required
import EntityForms.Proofs.EditSession.Resubmission

/-!
# The table names that are shown and saved

A details view of a source shows the table names that are entered, and saving sends them as a list.
The two are computed in different ways: the view splits the text of the form, the codec takes the
value of the form to the wire, be it a text or a list already. Of a text they make the same list
(`Text.splitNames`). A list is saved as it is, while the view shows no names for it; and it is not
empty, as the field is required. So what is saved is what was shown exactly when the names were
entered as a text.
-/

namespace EntityForms

namespace PostgresSource

variable {config : Config} {backend : Backend} {st : EditSession.State} {payload : Record}

/-- The two ways in which a saved source has got its tables: as a text that the form splits, or as a
list that is not empty. -/
theorem tables_of_submit (h : ((session config).submit backend st).result = .ok payload) :
    (∃ text, st.form.get? "tableNameList" = some (.text text) ∧
        payload.get? "tableNameList" = some (.ofTexts (Text.splitNames ',' text))) ∨
      ∃ items, items ≠ [] ∧ st.form.get? "tableNameList" = some (.ofTexts items) ∧
        payload.get? "tableNameList" = some (.ofTexts items) := by
  obtain ⟨hvalid, hpayload⟩ := EditSession.sent_of_submit h
  have hvalue := FieldTable.isBlankValue_of_validate hvalid
    (tableNamesField_mem_formFields config st.mode) rfl
  obtain ⟨wire, hwire, hget⟩ := EditSession.get?_payload hpayload
  have hsent : payload.get? "tableNameList" = wire.get? "tableNameList" := by
    rw [hget "tableNameList" (.inl (by decide))]
    rfl
  obtain ⟨shape, hshape, hlist⟩ := Codec.get?_stringify_of_some hwire lastTransform?_tables
  rw [hsent, hlist]
  cases shape with
  | ui text => exact .inl ⟨text, ListShape.ofValue_eq_ui_iff.mp hshape, rfl⟩
  | wire items =>
    rw [ListShape.ofValue_eq_wire_iff] at hshape
    refine .inr ⟨items, ?_, hshape, rfl⟩
    change isBlankValue (st.form.get? "tableNameList") = false at hvalue
    rwa [hshape, isBlankValue_ofTexts, List.isEmpty_eq_false_iff] at hvalue

theorem enteredTableNames_of_text {form : Record} {text : String}
    (h : form.get? "tableNameList" = some (.text text)) :
    enteredTableNames form = Text.splitNames ',' text := by
  rw [enteredTableNames, h]

theorem enteredTableNames_of_texts {form : Record} {items : List String}
    (h : form.get? "tableNameList" = some (.ofTexts items)) : enteredTableNames form = [] := by
  rw [enteredTableNames, h, Json.ofTexts]

/--
A source is saved, in whatever state the run has led to. Its tables are those that the view showed
before exactly when they were entered as a text. Otherwise they were a list of names already; that
list is saved, while the view showed none.
-/
theorem tables_saved_iff (config : Config) (backend : Backend) (st : EditSession.State)
    {payload : Record}
    (h : ((details (session config)).save backend st).result = .ok payload) :
    (payload.get? "tableNameList" = some (.ofTexts (enteredTableNames st.form)) ↔
        ∃ text, st.form.get? "tableNameList" = some (.text text)) ∧
      ((∀ text, st.form.get? "tableNameList" ≠ some (.text text)) →
        ∃ items, items ≠ [] ∧ st.form.get? "tableNameList" = some (.ofTexts items) ∧
          payload.get? "tableNameList" = some (.ofTexts items) ∧
          enteredTableNames st.form = []) := by
  rcases tables_of_submit (Details.submit_of_save h) with
    ⟨text, hform, hsent⟩ | ⟨items, hitems, hform, hsent⟩
  · refine ⟨iff_of_true ?_ ⟨text, hform⟩, fun hnot ↦ absurd hform (hnot text)⟩
    rw [hsent, enteredTableNames_of_text hform]
  · have hshown := enteredTableNames_of_texts hform
    refine ⟨iff_of_false ?_ ?_, fun _ ↦ ⟨items, hitems, hform, hsent, hshown⟩⟩
    · rw [hsent, hshown, Option.some.injEq, Json.ofTexts_inj]
      exact hitems
    · rintro ⟨text, htext⟩
      rw [hform, Json.ofTexts] at htext
      cases htext

/-- The state of the view when the stored source is loaded and this is set for its tables. -/
def sampleState (input : Json) : EditSession.State :=
  (details (session .standard)).stateAfter
    [(.load (some 5), sampleBackend), (.setField "tableNameList" input, sampleBackend)]
    (session .standard).initial

set_option maxRecDepth 8000 in
/-- Names that are entered as a text, with a blank one among them, are saved as they were shown. -/
theorem tables_saved_of_sampleState :
    ((details (session .standard)).save sampleBackend
        (sampleState (.text "orders, , users "))).result = .ok sampleUpdate ∧
      sampleUpdate.get? "tableNameList" =
        some (.ofTexts (enteredTableNames (sampleState (.text "orders, , users ")).form)) := by
  have hsave : ((details (session .standard)).save sampleBackend
      (sampleState (.text "orders, , users "))).result = .ok sampleUpdate := by rfl
  have hform : (sampleState (.text "orders, , users ")).form.get? "tableNameList" =
      some (.text "orders, , users ") := by rfl
  exact ⟨hsave, (tables_saved_iff .standard sampleBackend _ hsave).1.mpr ⟨_, hform⟩⟩

set_option maxRecDepth 8000 in
/-- A list of names is saved, although no names were shown. -/
theorem list_saved_of_sampleState :
    ((details (session .standard)).save sampleBackend
        (sampleState (.ofTexts ["orders", "users"]))).result = .ok sampleUpdate ∧
      sampleUpdate.get? "tableNameList" = some (.ofTexts ["orders", "users"]) ∧
      enteredTableNames (sampleState (.ofTexts ["orders", "users"])).form = [] :=
  ⟨by rfl, by rfl, by rfl⟩

end PostgresSource

end EntityForms
