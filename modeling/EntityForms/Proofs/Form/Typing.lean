import EntityForms.Proofs.Form.Choices
import EntityForms.Proofs.Form.NumberInput

/-!
# Text typed into a form

A field that was left alone has its initial value, and one that was typed into has what its control
made of the text (`Field.IsTyped`). Validation then narrows down what a form can hold that passes:
a text control holds a text; a required number control with a bound on its size holds a number,
since no text that is not one satisfies the bound; a select or radio control holds the value of one
of its options, or a blank text, which validation does not compare with the options.
-/

namespace EntityForms

/-! ## What a form starts with -/

theorem FieldTable.get?_initialRecord {t : FieldTable} {f : Field} (hf : f ∈ t.fields) :
    t.initialRecord.get? f.name = f.initial.map StaticValue.toJson := by
  cases hget : t.initialRecord.get? f.name with
  | none =>
    have hcontains : t.initialRecord.contains f.name = false :=
      Dictionary.contains_eq_false_iff.mpr hget
    cases hinitial : f.initial with
    | none => rfl
    | some w =>
      have hmem := contains_initialRecord.mpr ⟨f, hf, rfl, Option.isSome_of_eq_some hinitial⟩
      rw [hcontains] at hmem
      cases hmem
  | some v =>
    obtain ⟨g, hg, hentry⟩ := List.mem_filterMap.mp (Dictionary.mem_of_get?_ofList hget)
    obtain ⟨w, hw, hpair⟩ := Option.map_eq_some_iff.mp hentry
    obtain ⟨hname, rfl⟩ := Prod.mk.inj hpair
    -- no other field has the name
    have hfound := get?_of_mem hg
    rw [hname, get?_of_mem hf] at hfound
    obtain rfl := Option.some.inj hfound
    rw [hw, Option.map_some]

/-! ## What the controls make of a text -/

namespace Field

variable {f : Field} {v : Option Json} {l : Localizer}

/-- The value of a field that has its initial value or was typed into. -/
def IsTyped (f : Field) (v : Option Json) : Prop :=
  v = f.initial.map StaticValue.toJson ∨ ∃ text, v = some (f.coerce (.text text))

/-- A field whose control keeps a text as it is, and that starts without one. -/
def isPlainText (f : Field) : Bool :=
  !f.control.isEnumerated && !f.control.isNumeric && f.initial.isNone

theorem eq_none_or_text_of_isTyped (hplain : f.isPlainText = true) (hv : f.IsTyped v) :
    v = none ∨ ∃ text, v = some (.text text) := by
  simp only [isPlainText, Bool.and_eq_true, Bool.not_eq_true', Option.isNone_iff_eq_none] at hplain
  obtain ⟨⟨henum, hnumeric⟩, hinitial⟩ := hplain
  rcases hv with rfl | ⟨text, rfl⟩
  · exact .inl (by rw [hinitial, Option.map_none])
  · exact .inr ⟨text, by simp [coerce, henum, hnumeric]⟩

/-! ## Values that pass validation -/

theorem exists_number_of_isTyped (hnumeric : f.control.isNumeric = true)
    (hrequired : f.rules.required = true) (hrange : f.rules.hasRange = true)
    (hinitial : ∀ w, f.initial = some w → ∃ n, w = .integer n) (hv : f.IsTyped v)
    (h : f.rules.check v = .ok ()) :
    ∃ n, v = some (.number n) ∧ f.rules.checkNumber n.toBinary64 = .ok () := by
  have hnumber : ∃ n, v = some (.number n) := by
    rcases hv with rfl | ⟨text, rfl⟩
    · have hblank := Rules.isBlankValue_of_check h hrequired
      cases hw : f.initial with
      | none =>
        rw [hw] at hblank
        cases hblank
      | some w =>
        obtain ⟨n, rfl⟩ := hinitial w hw
        exact ⟨.ofInt64 n, rfl⟩
    · obtain ⟨n, hn⟩ := exists_spellsNumber_of_check hnumeric hrequired hrange h
      exact ⟨n, congrArg some (coerce_of_spellsNumber hnumeric hn)⟩
  obtain ⟨n, rfl⟩ := hnumber
  exact ⟨n, rfl, h⟩

/-- A select or radio control holds the value of an option, unless it holds nothing or a blank text.
It holds nothing only where it started so. -/
theorem eq_choice_of_isTyped (henum : f.control.isEnumerated = true)
    (hchoices : f.choicesDefect? = none) (hv : f.IsTyped v) (h : f.problem? v l = none) :
    (v = none ∧ f.initial = none) ∨ (∃ c ∈ f.choices, v = some c.value.toJson) ∨
      ∃ text, v = some (.text text) ∧ Text.allBlank text = true := by
  rcases hv with rfl | ⟨text, rfl⟩
  · cases hinitial : f.initial with
    | none => exact .inl ⟨rfl, rfl⟩
    | some w =>
      have hoffered := (choicesDefect?_eq_none_iff.mp hchoices).2.2 w hinitial
      obtain ⟨c, hc, rfl⟩ := List.mem_map.mp hoffered
      exact .inr (.inl ⟨c, hc, rfl⟩)
  · right
    cases hfound : f.choiceFor (.text text) with
    | some c =>
      have hstored := coerce_of_choiceFor henum hfound
      exact .inl ⟨c, List.mem_of_find?_eq_some hfound, by rw [hstored]⟩
    | none =>
      -- no option stands for the text, so it is blank
      have hstored := coerce_of_choiceFor_eq_none henum hfound
      rw [hstored] at h ⊢
      refine .inr ⟨text, rfl, ?_⟩
      by_contra hblank
      obtain ⟨c, hc⟩ := exists_choiceFor_of_problem?_eq_none henum (Bool.not_eq_true _ ▸ hblank) h
      cases hfound.symm.trans hc

end Field

end EntityForms
