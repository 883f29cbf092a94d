import EntityForms.Form
import EntityForms.Proofs.Lists.Keys

/-!
# What a validated form satisfies

Validation goes through the fields that the form shows and collects what is wrong with each, so a
form passes exactly when nothing is wrong with any of them. A value that passes the rules of a
required field is not blank.

A field is looked up by its name. In a table that was accepted no name occurs twice, and the field
that is found is the one that was declared.
-/

namespace EntityForms

/-! ## Values -/

theorem isBlankValue_ofTexts (texts : List String) :
    isBlankValue (some (.ofTexts texts)) = texts.isEmpty := by
  cases texts <;> rfl

theorem Rules.isBlankValue_of_check {rules : Rules} {value : Option Json}
    (h : rules.check value = .ok ()) (hrequired : rules.required = true) :
    isBlankValue value = false := by
  cases hblank : isBlankValue value with
  | false => rfl
  | true =>
    have hcheck : rules.check value = .error .required := by simp [check, hblank, hrequired]
    rw [hcheck] at h
    cases h

theorem Rules.check_required_text (text : String) :
    ({ required := true } : Rules).check (some (.text text)) =
      if Text.allBlank text then .error .required else .ok () := by
  rw [check]
  cases hblank : Text.allBlank text with
  | true => simp [isBlankValue, Json.isBlank, hblank]
  | false =>
    simp only [isBlankValue, Json.isBlank, hblank, checkText, Option.all_some, Bool.and_false]
    rfl

/-! ## Fields -/

theorem Field.error?_congr {f : Field} {r r' : Record} {l : Localizer}
    (h : r.get? f.name = r'.get? f.name) : f.error? r l = f.error? r' l := by
  rw [error?, h, ← error?]

theorem Field.check_of_problem?_eq_none {f : Field} {value : Option Json} {l : Localizer}
    (h : f.problem? value l = none) : f.rules.check value = .ok () := by
  cases hcheck : f.rules.check value with
  | ok _ => rfl
  | error violation =>
    unfold problem? at h
    rw [hcheck] at h
    cases h

theorem Field.check_of_error?_eq_none {f : Field} {r : Record} {l : Localizer}
    (h : f.error? r l = none) : f.rules.check (r.get? f.name) = .ok () :=
  check_of_problem?_eq_none (Option.map_eq_none_iff.mp h)

namespace FieldTable

variable {t : FieldTable} {f : Field}

theorem validate_eq_nil_iff {mode : Mode} {r : Record} {l : Localizer} :
    t.validate mode r l = [] ↔ ∀ f ∈ t.formFields mode, f.error? r l = none := by
  rw [validate, List.filterMap_eq_nil_iff]

theorem map_field_validate (mode : Mode) (r : Record) (l : Localizer) :
    (t.validate mode r l).map FieldError.field =
      ((t.formFields mode).filter fun f ↦ (f.error? r l).isSome).map Field.name := by
  rw [validate]
  induction t.formFields mode with
  | nil => rfl
  | cons f fields ih =>
    rw [List.filterMap_cons, List.filter_cons]
    cases herror : f.error? r l with
    | none => simpa using ih
    | some e =>
      obtain ⟨message, -, rfl⟩ := Option.map_eq_some_iff.mp herror
      simpa using ih

/-- Where nothing is wrong with all fields but one, what is wrong with that one is all that is
reported. -/
theorem validate_eq_toList {mode : Mode} {r : Record} {l : Localizer} {before after : List Field}
    (hfields : t.formFields mode = before ++ f :: after)
    (hothers : ∀ g ∈ before ++ after, g.error? r l = none) :
    t.validate mode r l = (f.error? r l).toList := by
  rw [List.forall_mem_append] at hothers
  rw [validate, hfields, List.filterMap_append, List.filterMap_eq_nil_iff.mpr hothers.1,
    List.nil_append, List.filterMap_cons, List.filterMap_eq_nil_iff.mpr hothers.2]
  cases f.error? r l <;> rfl

theorem isBlankValue_of_validate {mode : Mode} {r : Record} {l : Localizer}
    (h : t.validate mode r l = []) (hf : f ∈ t.formFields mode)
    (hrequired : f.rules.required = true) : isBlankValue (r.get? f.name) = false :=
  Rules.isBlankValue_of_check (Field.check_of_error?_eq_none (validate_eq_nil_iff.mp h f hf))
    hrequired

theorem mem_of_mem_formFields {mode : Mode} (h : f ∈ t.formFields mode) : f ∈ t.fields :=
  (List.mem_filter.mp h).1

theorem nodup_map_name_formFields (t : FieldTable) (mode : Mode) :
    ((t.formFields mode).map Field.name).Nodup :=
  t.nodup_names.sublist (List.filter_sublist.map Field.name)

theorem get?_of_mem (hf : f ∈ t.fields) : t.get? f.name = some f := by
  rw [get?_eq_find?, find?_key_eq_some_iff t.nodup_names]
  exact ⟨hf, rfl⟩

theorem control?_form {mode : Mode} (hf : f ∈ t.formFields mode) (r : Record) (l : Localizer) :
    (t.form mode r l).control? f.name = some (f.formControl r l) := by
  have hfound : ((t.formFields mode).find? fun g ↦ g.name == f.name) = some f :=
    (find?_key_eq_some_iff (t.nodup_map_name_formFields mode)).mpr ⟨hf, rfl⟩
  rw [form, Form.control?, List.find?_map]
  exact congrArg (Option.map fun g ↦ g.formControl r l) hfound

theorem all_isSynced_get? (h : ∀ f ∈ t.fields, f.isSynced = true) (key : String) :
    (t.get? key).all Field.isSynced = true := by
  cases hf : t.get? key with
  | none => rfl
  | some f => exact h f (mem_of_get? hf)

end FieldTable

end EntityForms
