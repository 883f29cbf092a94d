import EntityForms.Proofs.EditSession.Posting
import EntityForms.Proofs.EditSession.Required
import EntityForms.Proofs.Form.Typing
import EntityForms.Proofs.Wire.Acceptance

/-!
# New records that are typed in

A new record is opened and its form is filled in by typing text into controls. Such a state has a
description of its own, `IsTyped`: every declared field holds its initial value or what its control
made of a text, and nothing else is there. When the form passes validation, each field holds a value
that nothing is wrong with, and what becomes of it rests with the typed reading of the wire record.
`PostedUnless` says so of a submission: the record is posted unless it is in a gap, which is where
validation accepts what the reading refuses.
-/

namespace EntityForms

namespace EditSession

variable {Wire : Type} {s : EditSession Wire} {backend : Backend} {st : State}

/-! ## Typing -/

/-- A text is typed into a control. -/
def Operation.IsTyping : Operation → Prop
  | .setField _ (.text _) => True
  | _ => False

theorem Operation.IsTyping.isEdit {op : Operation} (h : op.IsTyping) : op.IsEdit := by
  cases op with
  | setField => exact trivial
  | openRecord | clearField | resetForm | close | submit => exact h.elim

theorem exists_text_of_mem_inputsTo {ops : List (Operation × Backend)} {key : String} {input : Json}
    (hops : ∀ step ∈ ops, step.1.IsTyping) (h : input ∈ inputsTo key ops) :
    ∃ text, input = .text text := by
  obtain ⟨⟨op, backend⟩, hmem, hinput⟩ := List.mem_filterMap.mp h
  have htyping := hops _ hmem
  cases op with
  | setField name value =>
    dsimp only at hinput
    split at hinput
    case isTrue =>
      obtain rfl := Option.some.inj hinput
      cases value with
      | text text => exact ⟨text, rfl⟩
      | null | bool | number | list | object => exact htyping.elim
    case isFalse => cases hinput
  | openRecord | clearField | resetForm | close | submit => exact htyping.elim

theorem visible_stateAfter {ops : List (Operation × Backend)}
    (hops : ∀ step ∈ ops, step.1.IsEdit) (st : State) :
    (s.stateAfter ops st).visible = st.visible := by
  refine s.stateAfter_induct (P := fun st' ↦ st'.visible = st.visible) ?_ rfl
  intro ⟨op, backend⟩ hstep st' hst'
  rw [← hst']
  cases op with
  | setField name input => exact (s.setField_frame st' name input).2.2.1
  | submit => exact s.visible_submit backend st'
  | openRecord | clearField | resetForm | close => exact (hops _ hstep).elim

/-- A new record whose form was filled in by typing. -/
structure IsTyped (s : EditSession Wire) (st : State) : Prop where
  id : st.id = none
  visible : st.visible = true
  loaded : st.loaded = true
  declared : ∀ f ∈ s.fields.fields, f.IsTyped (st.form.get? f.name)
  undeclared : ∀ key, s.fields.get? key = none → st.form.get? key = none

/-- What a run leaves that opens a new record and types. -/
theorem isTyped_stateAfter {ops : List (Operation × Backend)}
    (hops : ∀ step ∈ ops, step.1.IsTyping) (backend : Backend) (st : State) :
    s.IsTyped (s.stateAfter ((.openRecord none, backend) :: ops) st) := by
  have hedit : ∀ step ∈ ops, step.1.IsEdit := fun step hstep ↦ (hops step hstep).isEdit
  have hopen : ∀ step ∈ ops, ∀ k, step.1 ≠ .openRecord k :=
    fun step hstep ↦ (hedit step hstep).ne_openRecord
  have hform : ∀ key, (s.stateAfter ((.openRecord none, backend) :: ops) st).form.get? key =
      s.valueAfter ops key (s.fields.initialRecord.get? key) := by
    intro key
    rw [stateAfter_cons, get?_form_stateAfter hedit]
    rfl
  refine ⟨(id_and_loaded_stateAfter hopen).1, visible_stateAfter hedit _,
    (id_and_loaded_stateAfter hopen).2, fun f hf ↦ ?_, fun key hkey ↦ ?_⟩
  · rw [hform, FieldTable.get?_initialRecord hf, valueAfter,
      FieldTable.get?_of_mem hf]
    cases hlast : (inputsTo f.name ops).getLast? with
    | none => exact .inl rfl
    | some input =>
      obtain ⟨text, rfl⟩ := exists_text_of_mem_inputsTo hops (List.mem_of_getLast? hlast)
      exact .inr ⟨text, rfl⟩
  · rw [hform, valueAfter_of_undeclared hkey, ← Dictionary.contains_eq_false_iff]
    exact FieldTable.covers_iff.mp FieldTable.covers_initialRecord key
      (FieldTable.get?_eq_none_iff.mp hkey)

/-! ## What a submission makes of the form -/

variable (s backend st) in
/-- What becomes of the form of a new record that passes validation. It is taken to the wire; the
typed reading refuses it exactly where there is a gap, and that is reported; otherwise it is posted,
with what is sent as stated. -/
def PostedUnless (gap : Prop) (sent : Record → Prop) : Prop :=
  ∃ wire, s.entity.codec.stringify st.form = .ok wire ∧
    ((∃ cause, s.entity.decodeWire (s.fields.syncFilter wire) = .error cause) ↔ gap) ∧
    (gap → ∃ cause, (s.submit backend st).result = .error (.codec cause)) ∧
    (¬ gap → sent (s.fields.syncFilter wire) ∧
      ∃ answer, .post (s.url s.entity.endpoints.create) (s.fields.syncFilter wire) answer ∈
        (s.submit backend st).trace)

theorem IsTyped.postedUnless (h : s.IsTyped st)
    (hvalid : s.fields.validate st.mode st.form s.localizer = []) {gap : Prop}
    {sent : Record → Prop} {wire : Record} (hwire : s.entity.codec.stringify st.form = .ok wire)
    (hread : (∃ typed, s.entity.read (s.fields.syncFilter wire) = .ok typed) ↔ ¬ gap)
    (hsent : ¬ gap → sent (s.fields.syncFilter wire)) : s.PostedUnless backend st gap sent := by
  have hrefused : (∃ cause, s.entity.decodeWire (s.fields.syncFilter wire) = .error cause) ↔
      gap := by
    rw [EntityClass.exists_decodeWire_eq_error_iff, hread, not_not]
  have hpayload : s.payload st =
      (s.entity.decodeWire (s.fields.syncFilter wire)).mapError .codec >>=
        fun _ ↦ .ok (s.fields.syncFilter wire) := by
    rw [payload, hwire, h.id]
    rfl
  refine ⟨wire, hwire, hrefused, fun hgap ↦ ?_, fun hgap ↦ ⟨hsent hgap, ?_⟩⟩
  · obtain ⟨cause, hcause⟩ := hrefused.mpr hgap
    rw [hcause] at hpayload
    exact ⟨cause, s.result_submit_of_no_payload backend h.visible h.loaded hvalid hpayload⟩
  · obtain ⟨typed, htyped⟩ := hread.mpr hgap
    rw [EntityClass.decodeWire, htyped] at hpayload
    have hpost := s.exists_post_mem_submit backend h.visible h.loaded hvalid hpayload
    rwa [h.id] at hpost

theorem IsTyped.problem?_eq_none (h : s.IsTyped st)
    (hvalid : s.fields.validate st.mode st.form s.localizer = []) {f : Field}
    (hf : f ∈ s.fields.fields) : f.problem? (st.form.get? f.name) s.localizer = none := by
  have hshown : f ∈ s.fields.formFields st.mode := by
    rw [State.mode, h.id]
    exact List.mem_filter.mpr ⟨hf, f.isVisible_create⟩
  exact Option.map_eq_none_iff.mp (FieldTable.validate_eq_nil_iff.mp hvalid f hshown)

theorem IsTyped.exists_text (h : s.IsTyped st)
    (hvalid : s.fields.validate st.mode st.form s.localizer = []) {f : Field}
    (hf : f ∈ s.fields.fields) (hplain : f.isPlainText = true)
    (hrequired : f.rules.required = true) : ∃ text, st.form.get? f.name = some (.text text) := by
  have hcheck := Field.check_of_problem?_eq_none (h.problem?_eq_none hvalid hf)
  have hblank := Rules.isBlankValue_of_check hcheck hrequired
  rcases Field.eq_none_or_text_of_isTyped hplain (h.declared f hf) with hnone | htext
  · rw [hnone] at hblank
    cases hblank
  · exact htext

theorem IsTyped.exists_number (h : s.IsTyped st)
    (hvalid : s.fields.validate st.mode st.form s.localizer = []) {f : Field}
    (hf : f ∈ s.fields.fields) (hnumeric : f.control.isNumeric = true)
    (hrequired : f.rules.required = true) (hrange : f.rules.hasRange = true)
    (hinitial : ∀ w, f.initial = some w → ∃ n, w = .integer n) :
    ∃ n, st.form.get? f.name = some (.number n) ∧ f.rules.checkNumber n.toBinary64 = .ok () :=
  Field.exists_number_of_isTyped hnumeric hrequired hrange hinitial (h.declared f hf)
    (Field.check_of_problem?_eq_none (h.problem?_eq_none hvalid hf))

/-- A field with options and an initial value holds the value of an option, or a blank text where
it is not required. -/
theorem IsTyped.eq_choice (h : s.IsTyped st)
    (hvalid : s.fields.validate st.mode st.form s.localizer = []) {f : Field}
    (hf : f ∈ s.fields.fields) (henum : f.control.isEnumerated = true)
    (hchoices : f.choicesDefect? = none) (hinitial : f.initial.isSome = true) :
    (∃ c ∈ f.choices, st.form.get? f.name = some c.value.toJson) ∨
      f.rules.required = false ∧
        ∃ text, st.form.get? f.name = some (.text text) ∧ Text.allBlank text = true := by
  have hproblem := h.problem?_eq_none hvalid hf
  rcases Field.eq_choice_of_isTyped henum hchoices (h.declared f hf) hproblem with
    ⟨-, hnone⟩ | hchoice | ⟨text, htext, hblank⟩
  · rw [hnone] at hinitial
    cases hinitial
  · exact .inl hchoice
  · refine .inr ⟨Bool.eq_false_iff.mpr fun hrequired ↦ ?_, text, htext, hblank⟩
    have hvalue := Rules.isBlankValue_of_check (Field.check_of_problem?_eq_none hproblem) hrequired
    rw [htext, isBlankValue, Option.all_some, Json.isBlank, hblank] at hvalue
    cases hvalue

end EditSession

end EntityForms
