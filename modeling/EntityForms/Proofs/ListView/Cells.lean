import EntityForms.ListView
import EntityForms.Proofs.Codec.RoundTrip
import EntityForms.Proofs.Form.Validation

/-!
# Cells of list views

A cell shows the value that its row holds under the key of its column, and looks at nothing else of
the row. The rows of a list view are wire records, so a field that is a list of texts is still a
list there, and a cell puts its items together with commas. A form holds the same items as a text
that the codec has put together with a delimiter of its own. Nothing ties the two together but the
choice of that delimiter: where it is the comma, the list view and the form show the same text for
every list, whatever its items are; where it is another one, they do so only for lists of at most
one item, in which no delimiter is written (`cellText_of_parse`).
-/

namespace EntityForms

/-! ## Lists of texts -/

theorem Json.displayItems_map_text (texts : List String) :
    displayItems (texts.map .text) = texts := by
  induction texts with
  | nil => rfl
  | cons s texts ih => rw [List.map_cons, displayItems, display, ih]

/-- A cell shows a list of texts as a form does whose delimiter is the comma. -/
theorem Json.display_ofTexts (texts : List String) :
    (ofTexts texts).display = Text.joinNames ',' texts := by
  rw [ofTexts, display, displayItems_map_text, Text.joinNames, ← String.toList_inj,
    String.toList_intercalate, String.toList_ofList, String.toList_ofList]

/-- The delimiter of a text can be told as soon as it stands between two names. -/
theorem Text.joinNames_eq_joinNames_iff {d d' : Char} {names : List String} :
    joinNames d names = joinNames d' names ↔ d = d' ∨ names.length ≤ 1 := by
  cases names with
  | nil => simp [joinNames]
  | cons name names =>
    cases names with
    | nil => simp [joinNames]
    | cons name' names =>
      rw [joinNames, joinNames, String.ofList_inj, List.map_cons, List.map_cons,
        List.intercalate_cons_cons, List.intercalate_cons_cons, List.append_assoc,
        List.append_assoc, List.append_cancel_left_eq]
      constructor
      · intro h
        exact .inl (List.cons.inj h).1
      · rintro (rfl | hlength)
        · rfl
        · simp at hlength

/-! ## What a cell shows -/

namespace ListColumn

variable {c : ListColumn} {row row' : Record} {l : Localizer} {v : Json}

theorem cellText_congr (h : row.get? c.key = row'.get? c.key) :
    c.cellText row l = c.cellText row' l := by
  rw [cellText, h, ← cellText]

theorem cellText_of_choiceLabel {label : String} (hrow : row.get? c.key = some v)
    (h : c.field.choiceLabel v = some label) : c.cellText row l = l.display label := by
  cases v with
  | null =>
    -- no option stands for null, so there is no label
    have hnone : c.field.choiceFor .null = none :=
      List.find?_eq_none.mpr fun d _ ↦ by simp [StaticValue.accepts_null]
    rw [Field.choiceLabel, hnone] at h
    cases h
  | bool | number | text | list | object => simp [cellText, hrow, h]

theorem cellText_of_choices_eq_nil (hrow : row.get? c.key = some v) (hv : v ≠ .null)
    (h : c.field.choices = []) : c.cellText row l = v.display := by
  have hlabel : c.field.choiceLabel v = none := by
    rw [Field.choiceLabel, Field.choiceFor, h, List.find?_nil, Option.map_none]
  cases v with
  | null => exact absurd rfl hv
  | bool | number | text | list | object => simp [cellText, hrow, hlabel]

/-! ## Cells of a record and of its form -/

/--
A wire record and the form record that it is parsed to, in a column of an accepted table. A field
without a transform is shown alike for both. A field with a transform and without options is a list
on the wire, which its cell shows with commas between the items; the form holds it as the text that
the cell of the form record shows, and that is what its control has in every form that shows it. The
two cells are the same exactly when the last transform of the field joins with commas too, or the
list has not two items to join.
-/
theorem cellText_of_parse {t : FieldTable} {codec : Codec} {wire form : Record}
    (hparse : codec.parse wire = .ok form) {l₀ : Localizer} {c : ListColumn}
    (hc : c ∈ t.listColumns l₀) (l : Localizer) :
    (codec.lastTransform? c.field.name = none → c.cellText form l = c.cellText wire l) ∧
    ∀ transform, codec.lastTransform? c.field.name = some transform → c.field.choices = [] →
      ∃ items, wire.get? c.field.name = some (.ofTexts items) ∧
        c.cellText wire l = Text.joinNames ',' items ∧
        form.get? c.field.name = some (.text (c.cellText form l)) ∧
        (∀ mode, c.field ∈ t.formFields mode →
          ((t.form mode form l).control? c.field.name).map FormControl.value =
            some (some (.text (c.cellText form l)))) ∧
        (c.cellText wire l = c.cellText form l ↔
          transform.delimiter = ',' ∨ items.length ≤ 1) := by
  obtain ⟨f, -, rfl⟩ := List.mem_map.mp hc
  dsimp only
  refine ⟨fun hnone ↦ cellText_congr (Codec.get?_parse_of_none hparse hnone), ?_⟩
  intro transform htransform hchoices
  obtain ⟨items, hwire, hform⟩ := Codec.exists_items_of_parse hparse htransform
  have hlist : cellText ⟨f.name, l₀.display f.labelKey, f⟩ wire l = Text.joinNames ',' items := by
    rw [cellText_of_choices_eq_nil hwire (by simp [Json.ofTexts]) hchoices, Json.display_ofTexts]
  have htext : cellText ⟨f.name, l₀.display f.labelKey, f⟩ form l =
      Text.joinNames transform.delimiter items := by
    rw [cellText_of_choices_eq_nil hform (by simp) hchoices, Json.display]
  refine ⟨items, hwire, hlist, htext ▸ hform, fun mode hf ↦ ?_, ?_⟩
  · rw [FieldTable.control?_form hf, Option.map_some, Field.formControl, hform, htext]
  · rw [hlist, htext, Text.joinNames_eq_joinNames_iff, eq_comm]

/-- A field for tags that list views show. -/
def sampleTags : Field where
  name := "tags"
  control := .input
  labelKey := "custom.Tags"
  isColumn := true

/-- A table of the tags only. -/
def sampleTable : FieldTable :=
  .ofFields "Custom" [sampleTags] (by decide +kernel) (by decide +kernel)

/-- The list column of the tags. -/
def sampleColumn : ListColumn := ⟨"tags", "custom.Tags", sampleTags⟩

/-- The tags have two transforms, of which the second joins with commas. -/
def sampleTransforms : Codec where
  transforms := [{ field := "tags", delimiter := ';' }, { field := "words" }, { field := "tags" }]

/-- A row with a tag that has a comma inside and with an empty one. -/
def sampleRow : Record :=
  .ofList [("tags", .ofTexts ["a,b", "", "c"]), ("words", .ofTexts [])]

/-- The tags have the same cell in the row and in its form, where they are that very text. -/
theorem cellText_of_sampleColumn :
    ∃ form, sampleTransforms.parse sampleRow = .ok form ∧
      sampleColumn ∈ sampleTable.listColumns ⟨fun _ ↦ none⟩ ∧
      sampleColumn.cellText sampleRow ⟨fun _ ↦ none⟩ = "a,b,,c" ∧
      sampleColumn.cellText form ⟨fun _ ↦ none⟩ = "a,b,,c" ∧
      form.get? "tags" = some (.text "a,b,,c") := by
  obtain ⟨form, hparse⟩ : ∃ form, sampleTransforms.parse sampleRow = .ok form := ⟨_, rfl⟩
  have hcolumn : sampleColumn ∈ sampleTable.listColumns ⟨fun _ ↦ none⟩ := List.mem_cons_self
  obtain ⟨-, hlist⟩ := cellText_of_parse hparse hcolumn ⟨fun _ ↦ none⟩
  obtain ⟨items, hwire, hcell, hform, -, hsame⟩ := hlist { field := "tags" } rfl rfl
  have hstored : sampleRow.get? "tags" = some (.ofTexts ["a,b", "", "c"]) := by rfl
  obtain rfl : ["a,b", "", "c"] = items :=
    Json.ofTexts_inj.mp (Option.some.inj (hstored.symm.trans hwire))
  have hshown : sampleColumn.cellText form ⟨fun _ ↦ none⟩ = "a,b,,c" :=
    (hsame.mpr (.inl rfl)).symm.trans hcell
  exact ⟨form, hparse, hcolumn, hcell, hshown, hshown ▸ hform⟩

end ListColumn

end EntityForms
