import EntityForms.Field.Input
import EntityForms.Form
import EntityForms.ListView
import EntityForms.Proofs.Form.Validation
import EntityForms.Proofs.ListView.Cells
import Mathlib.Data.List.Find

/-!
# The options that can be chosen

A select or radio control offers options and delivers the value of the one that was picked. What the
field stores is the value of the *first* option that the input stands for, and a text stands for an
integer that it spells. So an option that is a text can be hidden by an integer that is declared
before it. Nothing else hides an option, because a table is refused when two options of a field have
the same value; but values are compared strictly there, and a text is not the same as the integer
that it spells. Hence an option is taken for itself exactly when no such integer comes before it
(`takes_choice_iff`).
-/

namespace EntityForms

/-! ## Declared values -/

/-- Whether a declared value is taken for another one: it is the integer that the other one, a text,
spells. -/
def StaticValue.shadows : StaticValue → StaticValue → Bool
  | .integer n, .text s => Text.readInt64? (Text.trim s.toList) == some n
  | _, _ => false

theorem StaticValue.toJson_inj {v w : StaticValue} : v.toJson = w.toJson ↔ v = w := by
  cases v <;> cases w <;> simp [toJson, Json.ofInt64]

theorem StaticValue.accepts_toJson_iff {v w : StaticValue} :
    v.accepts w.toJson = true ↔ v = w ∨ v.shadows w = true := by
  cases v with
  | text s => cases w <;> simp [accepts, shadows, toJson, Json.ofInt64]
  | bool b => cases w <;> simp [accepts, shadows, toJson, Json.ofInt64]
  | integer n =>
    cases w with
    | text s => simp [accepts, shadows, toJson, Json.looseInt64?]
    | integer m =>
      rw [accepts, toJson, Json.looseInt64?_ofInt64, beq_iff_eq, Option.some.injEq]
      simp [shadows, eq_comm]
    | bool b => simp [accepts, shadows, toJson, Json.looseInt64?]

theorem StaticValue.ne_of_shadows {v w : StaticValue} (h : v.shadows w = true) : v ≠ w := by
  rintro rfl
  cases v <;> cases h

theorem StaticValue.accepts_of_accepts_toJson {v w : StaticValue} {input : Json}
    (h : v.accepts w.toJson = true) (hw : w.accepts input = true) : v.accepts input = true := by
  rcases accepts_toJson_iff.mp h with rfl | hshadows
  · exact hw
  · -- what is shadowed is a text, and a text accepts itself only
    cases w with
    | text s =>
      cases input with
      | text t =>
        obtain rfl : s = t := by simpa [accepts] using hw
        exact h
      | null | bool | number | list | object => cases hw
    | integer n => cases v <;> cases hshadows
    | bool b => cases v <;> cases hshadows

/-! ## Fields with options -/

namespace Field

variable {f : Field} {before after : List Choice} {c d : Choice}

theorem choicesDefect?_eq_none_iff :
    f.choicesDefect? = none ↔ f.choices ≠ [] ∧ (f.choices.map Choice.value).Pairwise (· ≠ ·) ∧
      ∀ v, f.initial = some v → v ∈ f.choices.map Choice.value := by
  simp only [choicesDefect?, List.isEmpty_iff, List.map_eq_nil_iff]
  split
  case isTrue hnil => simp [hnil]
  case isFalse hnil =>
    split
    case isTrue hdup => exact iff_of_false nofun fun h ↦ hdup h.2.1
    case isFalse hdup =>
      rw [not_not] at hdup
      cases f.initial with
      | none => simp [hnil, hdup]
      | some v => simp [hnil, hdup]

theorem choicesDefect?_of_defect? (h : f.defect? = none) (henum : f.control.isEnumerated = true) :
    f.choicesDefect? = none := by
  simp only [defect?] at h
  split at h
  case isTrue => cases h
  case isFalse =>
    split at h
    case isTrue => cases h
    case isFalse =>
      exact (Option.or_eq_none_iff.mp h).1

/-- An input of a field is taken for an option: its value is what the field stores. Unless the rules
say otherwise the form accepts it, and list views show it by the label of the option. -/
structure Takes (f : Field) (input : Json) (c : Choice) : Prop where
  found : f.choiceFor input = some c
  stored : f.coerce input = c.value.toJson
  accepted : f.rules.check (some c.value.toJson) = .ok () →
    ∀ l, f.problem? (some c.value.toJson) l = none
  labelled : ∀ (title : String) (row : Record) (l : Localizer),
    row.get? f.name = some c.value.toJson →
      (⟨f.name, title, f⟩ : ListColumn).cellText row l = l.display c.label

theorem choiceFor_toJson (hc : f.choices = before ++ c :: after)
    (hvalues : ∀ d ∈ before, d.value ≠ c.value) :
    f.choiceFor c.value.toJson =
      some ((before.find? fun d ↦ d.value.shadows c.value).getD c) := by
  have hbefore : (before.find? fun d ↦ d.value.accepts c.value.toJson) =
      before.find? fun d ↦ d.value.shadows c.value := by
    refine List.find?_congr fun d hd ↦ ?_
    rw [Bool.eq_iff_iff, StaticValue.accepts_toJson_iff, or_iff_right (hvalues d hd)]
  rw [choiceFor, hc, List.find?_append, hbefore, List.find?_cons, StaticValue.accepts_toJson]
  cases before.find? fun d ↦ d.value.shadows c.value <;> rfl

/-- The option that is found for an input is found again for its own value: an option before it that
accepted the value would have accepted the input as well. -/
theorem choiceFor_toJson_of_choiceFor {input : Json} (h : f.choiceFor input = some c) :
    f.choiceFor c.value.toJson = some c := by
  obtain ⟨haccepts, before, after, hc, hbefore⟩ := List.find?_eq_some_iff_append.mp h
  refine List.find?_eq_some_iff_append.mpr
    ⟨c.value.accepts_toJson, before, after, hc, fun d hd ↦ ?_⟩
  have hnot := hbefore d hd
  simp only [Bool.not_eq_true'] at hnot ⊢
  refine Bool.eq_false_iff.mpr fun hself ↦ ?_
  rw [StaticValue.accepts_of_accepts_toJson hself haccepts] at hnot
  cases hnot

theorem coerce_of_choiceFor {input : Json} (henum : f.control.isEnumerated = true)
    (h : f.choiceFor input = some c) : f.coerce input = c.value.toJson := by
  simp only [coerce, henum, h, if_true]

theorem coerce_of_choiceFor_eq_none {input : Json} (henum : f.control.isEnumerated = true)
    (h : f.choiceFor input = none) : f.coerce input = input := by
  simp only [coerce, henum, h, if_true]

theorem exists_choiceFor_of_problem?_eq_none {v : Json} {l : Localizer}
    (henum : f.control.isEnumerated = true) (hblank : v.isBlank = false)
    (h : f.problem? (some v) l = none) : ∃ c, f.choiceFor v = some c := by
  rw [← Option.isSome_iff_exists]
  by_contra hnone
  have hlabel : f.choiceLabel v = none := by
    rw [choiceLabel, Option.not_isSome_iff_eq_none.mp hnone, Option.map_none]
  have hcheck := check_of_problem?_eq_none h
  unfold problem? at h
  rw [hcheck] at h
  simp [henum, hblank, hlabel] at h

theorem takes_of_choiceFor {input : Json} (henum : f.control.isEnumerated = true)
    (h : f.choiceFor input = some c) : f.Takes input c := by
  have hlabel : f.choiceLabel c.value.toJson = some c.label := by
    rw [choiceLabel, choiceFor_toJson_of_choiceFor h, Option.map_some]
  refine ⟨h, coerce_of_choiceFor henum h, fun hcheck l ↦ ?_, fun title row l hrow ↦ ?_⟩
  · simp [problem?, hcheck, hlabel]
  · exact ListColumn.cellText_of_choiceLabel hrow hlabel

/-- What an option of an accepted field is taken for: itself, unless an option before it hides it,
and then the first one that does. -/
theorem takes_getD_choice (h : f.choicesDefect? = none) (henum : f.control.isEnumerated = true)
    (hc : f.choices = before ++ c :: after) :
    f.Takes c.value.toJson ((before.find? fun d ↦ d.value.shadows c.value).getD c) := by
  obtain ⟨-, hpairwise, -⟩ := choicesDefect?_eq_none_iff.mp h
  rw [hc, List.map_append, List.map_cons, List.pairwise_append] at hpairwise
  refine takes_of_choiceFor henum (choiceFor_toJson hc fun d hd ↦ ?_)
  exact hpairwise.2.2 _ (List.mem_map_of_mem hd) _ List.mem_cons_self

/-- Every option of an accepted table is taken for itself, stored as it is, exactly when no integer
before it is spelled by it; in any case it is taken for itself or for one before it. -/
theorem takes_choice_iff {t : FieldTable} (hf : f ∈ t.fields)
    (henum : f.control.isEnumerated = true) (hc : f.choices = before ++ c :: after) :
    (f.Takes c.value.toJson c ↔ ∀ d ∈ before, d.value.shadows c.value = false) ∧
      (f.coerce c.value.toJson = c.value.toJson ↔
        ∀ d ∈ before, d.value.shadows c.value = false) ∧
      ∃ d ∈ before ++ [c], f.Takes c.value.toJson d := by
  have hchoices := choicesDefect?_of_defect? (t.defect?_eq_none f hf) henum
  have htakes := takes_getD_choice hchoices henum hc
  have hnone : (∀ d ∈ before, d.value.shadows c.value = false) ↔
      (before.find? fun d ↦ d.value.shadows c.value) = none := by
    simp only [List.find?_eq_none, Bool.not_eq_true]
  rw [hnone]
  cases hhidden : before.find? fun d ↦ d.value.shadows c.value with
  | none =>
    rw [hhidden] at htakes
    exact ⟨iff_of_true htakes rfl, iff_of_true htakes.stored rfl, c, by simp, htakes⟩
  | some d =>
    rw [hhidden, Option.getD_some] at htakes
    have hshadows := List.find?_some hhidden
    have hstored : f.coerce c.value.toJson ≠ c.value.toJson := by
      rw [htakes.stored, Ne, StaticValue.toJson_inj]
      exact StaticValue.ne_of_shadows hshadows
    exact ⟨iff_of_false (fun hself ↦ hstored hself.stored) nofun, iff_of_false hstored nofun, d,
      List.mem_append_left _ (List.mem_of_find?_eq_some hhidden), htakes⟩

/-- A field whose options mix texts and integers. -/
def sampleKind : Field where
  name := "kind"
  control := .select
  labelKey := "custom.Kind"
  choices := [⟨"a", .text "7"⟩, ⟨"b", .integer 7⟩, ⟨"c", .text " +7"⟩]

/-- Which of the options are taken for themselves when the last one is picked. -/
theorem takes_choice_of_sampleKind :
    (∃ t, FieldTable.build "Custom" [sampleKind] = .ok t ∧ sampleKind ∈ t.fields) ∧
      (sampleKind.Takes (.text " +7") ⟨"c", .text " +7"⟩ ↔
        ∀ d ∈ sampleKind.choices.take 2, d.value.shadows (.text " +7") = false) ∧
      (sampleKind.coerce (.text " +7") = .text " +7" ↔
        ∀ d ∈ sampleKind.choices.take 2, d.value.shadows (.text " +7") = false) ∧
      ∃ d ∈ sampleKind.choices, sampleKind.Takes (.text " +7") d := by
  obtain ⟨t, ht⟩ : ∃ t, FieldTable.build "Custom" [sampleKind] = .ok t := ⟨_, rfl⟩
  have hmem : sampleKind ∈ t.fields := by
    rw [(FieldTable.build_eq_ok_iff.mp ht).2]
    exact List.mem_cons_self
  have hc : sampleKind.choices = sampleKind.choices.take 2 ++ ⟨"c", .text " +7"⟩ :: [] := rfl
  exact ⟨⟨t, ht, hmem⟩, takes_choice_iff hmem rfl hc⟩

/-- A text after the integer that it spells is stored as that integer and shown by its label,
although the table is accepted. -/
theorem choice_hidden_of_sampleKind :
    (∃ t, FieldTable.build "Custom" [sampleKind] = .ok t ∧ t.fields = [sampleKind]) ∧
      ⟨"c", .text " +7"⟩ ∈ sampleKind.choices ∧
      sampleKind.coerce (.text " +7") = .number (.integer 7) ∧
      sampleKind.choiceFor (.text " +7") = some ⟨"b", .integer 7⟩ :=
  ⟨⟨_, rfl, rfl⟩, by decide, rfl, rfl⟩

end Field

end EntityForms
