import EntityForms.Proofs.Form.Choices
import EntityForms.Proofs.Form.NumberInput

/-!
# Stored values are stable

What a field stores for an input is in turn an input that the field stores as it is
(`Field.coerce_coerce`). For a number control this is so because nothing that it makes of a text is
a text. For a select or radio control it rests on the search for an option: an option is found for
its own value whenever it was found for some input, since an option before it that accepts the value
accepts the input too (`Field.choiceFor_toJson_of_choiceFor`). No more than that is true of the way
options accept values, and no more is asked of the list of options.

So a select or radio control loses nothing but the spelling of its input: option, label and cell are
those of the input, and an option has one stored value for all the inputs that stand for it, which
no other input shares (`Field.coerce_stable`).
-/

namespace EntityForms

theorem numericInput?_eq_some {s : String} {v : Json} (h : numericInput? s = some v) :
    v = .null ∨ ∃ n, v = .number n := by
  by_cases hblank : Text.allBlank s = true
  · rw [numericInput?_of_blank hblank] at h
    exact .inl (Option.some.inj h).symm
  rcases Text.spellsNumber_or (Text.trim s.toList) with ⟨n, hnumber⟩ | hnonFinite | hread
  · rw [numericInput?_of_spellsNumber hnumber] at h
    exact .inr ⟨n, (Option.some.inj h).symm⟩
  · rw [numericInput?_of_spellsNonFinite hnonFinite] at h
    exact .inl (Option.some.inj h).symm
  · rw [numericInput?_of_read?_eq_none (Bool.not_eq_true _ ▸ hblank) hread] at h
    cases h

namespace Field

variable {f : Field} {v w : Json}

/-! ## What is stored -/

theorem coerce_of_not_isEnumerated (henum : f.control.isEnumerated = false)
    (h : f.control.isNumeric = true → ∀ s, v ≠ .text s) : f.coerce v = v := by
  simp only [coerce, henum, if_neg Bool.false_ne_true]
  cases hnumeric : f.control.isNumeric with
  | false => rfl
  | true =>
    cases v with
    | text s => exact absurd rfl (h hnumeric s)
    | null | bool | number | list | object => rfl

theorem coerce_coerce_text (hnumeric : f.control.isNumeric = true) (s : String) :
    f.coerce (f.coerce (.text s)) = f.coerce (.text s) := by
  have henum := isEnumerated_of_isNumeric hnumeric
  cases hinput : numericInput? s with
  | none =>
    -- the text was left alone, and is so again
    have hstored : f.coerce (.text s) = .text s := by
      rw [coerce_of_isNumeric hnumeric, hinput, Option.getD_none]
    rw [hstored, hstored]
  | some v =>
    have hstored : f.coerce (.text s) = v := by
      rw [coerce_of_isNumeric hnumeric, hinput, Option.getD_some]
    rw [hstored]
    refine coerce_of_not_isEnumerated henum fun _ t ↦ ?_
    rcases numericInput?_eq_some hinput with rfl | ⟨n, rfl⟩ <;> simp

/-- What a field stores is stored again as it is. -/
theorem coerce_coerce (f : Field) (v : Json) : f.coerce (f.coerce v) = f.coerce v := by
  cases henum : f.control.isEnumerated with
  | true =>
    cases hfound : f.choiceFor v with
    | none =>
      rw [coerce_of_choiceFor_eq_none henum hfound, coerce_of_choiceFor_eq_none henum hfound]
    | some c =>
      rw [coerce_of_choiceFor henum hfound,
        coerce_of_choiceFor henum (choiceFor_toJson_of_choiceFor hfound)]
  | false =>
    by_cases htext : f.control.isNumeric = true ∧ ∃ s, v = .text s
    · obtain ⟨hnumeric, s, rfl⟩ := htext
      exact coerce_coerce_text hnumeric s
    · have hkept : f.coerce v = v := coerce_of_not_isEnumerated henum fun hnumeric s hs ↦
        htext ⟨hnumeric, s, hs⟩
      rw [hkept, hkept]

/-! ## The option that is kept -/

theorem choiceFor_coerce (henum : f.control.isEnumerated = true) (v : Json) :
    f.choiceFor (f.coerce v) = f.choiceFor v := by
  cases hfound : f.choiceFor v with
  | none => rw [coerce_of_choiceFor_eq_none henum hfound, hfound]
  | some c => rw [coerce_of_choiceFor henum hfound, choiceFor_toJson_of_choiceFor hfound]

theorem coerce_eq_coerce_iff (henum : f.control.isEnumerated = true)
    (hv : (f.choiceFor v).isSome = true) :
    f.coerce v = f.coerce w ↔ f.choiceFor v = f.choiceFor w := by
  constructor
  · intro h
    rw [← choiceFor_coerce henum v, h, choiceFor_coerce henum w]
  · intro h
    obtain ⟨c, hc⟩ := Option.isSome_iff_exists.mp hv
    rw [coerce_of_choiceFor henum hc, coerce_of_choiceFor henum (h.symm.trans hc)]

/-- Two values of a field that nobody can tell apart by the options: the same one is found for both,
list views show both alike, and the form has the same to say of both once the rules accept them. -/
structure AlikeInChoice (f : Field) (v w : Json) : Prop where
  choice : f.choiceFor v = f.choiceFor w
  label : f.choiceLabel v = f.choiceLabel w
  cell : ∀ (title : String) (row : Record) (l : Localizer),
    (⟨f.name, title, f⟩ : ListColumn).cellText (row.insert f.name v) l =
      (⟨f.name, title, f⟩ : ListColumn).cellText (row.insert f.name w) l
  problem : f.rules.check (some v) = .ok () → f.rules.check (some w) = .ok () →
    ∀ l, f.problem? (some v) l = f.problem? (some w) l

theorem AlikeInChoice.refl (f : Field) (v : Json) : f.AlikeInChoice v v :=
  ⟨rfl, rfl, fun _ _ _ ↦ rfl, fun _ _ _ ↦ rfl⟩

theorem alikeInChoice_of_choiceFor {c : Choice} (hv : f.choiceFor v = some c)
    (hw : f.choiceFor w = some c) : f.AlikeInChoice v w := by
  have hlabel : ∀ u, f.choiceFor u = some c → f.choiceLabel u = some c.label := fun u hu ↦ by
    rw [choiceLabel, hu, Option.map_some]
  refine ⟨hv.trans hw.symm, (hlabel v hv).trans (hlabel w hw).symm, fun title row l ↦ ?_,
    fun hcheckv hcheckw l ↦ ?_⟩
  · have hcell : ∀ u, f.choiceFor u = some c → (⟨f.name, title, f⟩ : ListColumn).cellText
        (row.insert f.name u) l = l.display c.label := fun u hu ↦
      ListColumn.cellText_of_choiceLabel (Dictionary.get?_insert_self _ _ _) (hlabel u hu)
    rw [hcell v hv, hcell w hw]
  · simp [problem?, hcheckv, hcheckw, hlabel v hv, hlabel w hw]

theorem alikeInChoice_coerce (henum : f.control.isEnumerated = true) (v : Json) :
    f.AlikeInChoice (f.coerce v) v := by
  cases hfound : f.choiceFor v with
  | none =>
    rw [coerce_of_choiceFor_eq_none henum hfound]
    exact .refl f v
  | some c => exact alikeInChoice_of_choiceFor ((choiceFor_coerce henum v).trans hfound) hfound

/--
Whatever a field is and whatever its options are, accepted or not, what it stores for an input is
stored again as it is. In a select or radio control the stored value stands for the same option as
the input, with the same label, the same cell and the same complaint of the form; and where the
input stands for an option, exactly the inputs that stand for this one are stored like it.
-/
theorem coerce_stable (f : Field) (v : Json) :
    f.coerce (f.coerce v) = f.coerce v ∧
      (f.control.isEnumerated = true → f.AlikeInChoice (f.coerce v) v ∧
        ((f.choiceFor v).isSome = true →
          ∀ w, f.coerce v = f.coerce w ↔ f.choiceFor v = f.choiceFor w)) :=
  ⟨coerce_coerce f v, fun henum ↦
    ⟨alikeInChoice_coerce henum v, fun hv _ ↦ coerce_eq_coerce_iff henum hv⟩⟩

/-- A text that is hidden by the integer that it spells is stored as that integer, for good, and so
is another spelling of it. -/
theorem coerce_stable_of_sampleKind :
    sampleKind.control.isEnumerated = true ∧
      sampleKind.coerce (.text " +7") = .number (.integer 7) ∧
      sampleKind.coerce (.number (.integer 7)) = .number (.integer 7) ∧
      sampleKind.choiceFor (.number (.integer 7)) = sampleKind.choiceFor (.text " +7") ∧
      sampleKind.coerce (.text " +7") = sampleKind.coerce (.text "007") := by
  have henum : sampleKind.control.isEnumerated = true := rfl
  have hstored : sampleKind.coerce (.text " +7") = .number (.integer 7) := rfl
  obtain ⟨hstable, hchoices⟩ := coerce_stable sampleKind (.text " +7")
  obtain ⟨halike, hsame⟩ := hchoices henum
  have hchoice := halike.choice
  rw [hstored] at hstable hchoice
  exact ⟨henum, hstored, hstable, hchoice, (hsame rfl (.text "007")).mpr rfl⟩

end Field

end EntityForms
