import EntityForms.Field.Input
import EntityForms.Form
import EntityForms.Proofs.Form.Range
import EntityForms.Proofs.Form.Validation

/-!
# Text in a number control

A text that is typed into a number control is read twice: by the control, which stores a number of
JSON, and by the rules of the field where the control left the text as it is. The texts are of three
kinds. One that spells a number is stored as that number. One that is blank, or spells a double that
is no number, is stored as nothing. Any other stays a text, which no rule on the size of a number
accepts. So in a required field with a bound on its size exactly the texts of the first kind can
pass, and what passes was compared with the bounds as the number that is stored
(`check_typedText_iff`).
-/

namespace EntityForms

/-! ## Three kinds of text -/

namespace Text

variable {cs : List Char} {n : Number}

/-- A text spells a number: the 64-bit integer that it is, or else a finite double. -/
inductive SpellsNumber (cs : List Char) : Number → Prop
  | integer {k : Int64} (h : readInt64? cs = some k) : SpellsNumber cs (.ofInt64 k)
  | float {x : Binary64} (hinteger : readInt64? cs = none) (h : Binary64.read? cs = some x)
      (hfinite : x.isFinite = true) : SpellsNumber cs (.float x hfinite)

/-- A text spells a double that is no number: an infinity, or `nan`. -/
def SpellsNonFinite (cs : List Char) : Prop :=
  ∃ x, Binary64.read? cs = some x ∧ x.isFinite = false

theorem SpellsNumber.ne_nil (h : SpellsNumber cs n) : cs ≠ [] := by
  rintro rfl
  cases h with
  | integer h => cases h
  | float _ h _ => cases h

theorem SpellsNonFinite.ne_nil (h : SpellsNonFinite cs) : cs ≠ [] := by
  rintro rfl
  obtain ⟨x, hx, -⟩ := h
  cases hx

theorem SpellsNonFinite.readInt64?_eq_none (h : SpellsNonFinite cs) : readInt64? cs = none := by
  obtain ⟨x, hx, hfinite⟩ := h
  cases hinteger : readInt64? cs with
  | none => rfl
  | some k =>
    obtain ⟨y, hy, hfinite'⟩ := Binary64.exists_finite_of_readInt64? hinteger
    obtain rfl := Option.some.inj (hx.symm.trans hy)
    rw [hfinite] at hfinite'
    cases hfinite'

theorem readInt64?_eq_none_of_read? (h : Binary64.read? cs = none) : readInt64? cs = none := by
  cases hinteger : readInt64? cs with
  | none => rfl
  | some k =>
    obtain ⟨y, hy, -⟩ := Binary64.exists_finite_of_readInt64? hinteger
    cases h.symm.trans hy

theorem spellsNonFinite_of_isWord {w : String} (hw : w ∈ ["inf", "infinity", "nan"])
    (h : IsWord w.toList cs) : SpellsNonFinite cs := by
  obtain ⟨hinfinite, hnan, -⟩ := Binary64.read?_eq cs
  simp only [List.mem_cons, List.not_mem_nil, or_false] at hw
  rcases hw with rfl | rfl | rfl
  · exact ⟨_, hinfinite (.inl h), rfl⟩
  · exact ⟨_, hinfinite (.inr h), rfl⟩
  · exact ⟨_, hnan h, rfl⟩

/-- A text spells a number, or a double that is none, or is no double at all. -/
theorem spellsNumber_or (cs : List Char) :
    (∃ n, SpellsNumber cs n) ∨ SpellsNonFinite cs ∨ Binary64.read? cs = none := by
  cases hinteger : readInt64? cs with
  | some k => exact .inl ⟨_, .integer hinteger⟩
  | none =>
    cases hread : Binary64.read? cs with
    | none => exact .inr (.inr rfl)
    | some x =>
      cases hfinite : x.isFinite with
      | true => exact .inl ⟨_, .float hinteger hread hfinite⟩
      | false => exact .inr (.inl ⟨x, hread, hfinite⟩)

end Text

/-! ## What the control stores -/

section Stored

variable {s : String} {n : Number}

theorem numericInput?_of_spellsNumber (h : Text.SpellsNumber (Text.trim s.toList) n) :
    numericInput? s = some (.number n) := by
  rw [numericInput?, if_neg (by simpa using h.ne_nil)]
  cases h with
  | integer h => simp only [h, Json.ofInt64]
  | float hinteger h hfinite => simp [hinteger, h, Json.ofBinary64, hfinite]

theorem numericInput?_of_blank (h : Text.allBlank s = true) : numericInput? s = some .null := by
  rw [numericInput?, Text.allBlank_iff.mp h]
  rfl

theorem numericInput?_of_spellsNonFinite (h : Text.SpellsNonFinite (Text.trim s.toList)) :
    numericInput? s = some .null := by
  have hinteger := h.readInt64?_eq_none
  rw [numericInput?, if_neg (by simpa using h.ne_nil)]
  obtain ⟨x, hx, hfinite⟩ := h
  simp [hinteger, hx, Json.ofBinary64, hfinite]

theorem numericInput?_of_read?_eq_none (hblank : Text.allBlank s = false)
    (h : Binary64.read? (Text.trim s.toList) = none) : numericInput? s = none := by
  have hne : Text.trim s.toList ≠ [] := by
    intro hnil
    rw [Text.allBlank_iff.mpr hnil] at hblank
    cases hblank
  rw [numericInput?, if_neg (by simpa using hne)]
  simp only [Text.readInt64?_eq_none_of_read? h, h, Option.map_none]

end Stored

namespace Field

variable {f : Field} {s : String} {l : Localizer}

theorem isEnumerated_of_isNumeric (h : f.control.isNumeric = true) :
    f.control.isEnumerated = false := by
  cases hcontrol : f.control <;> simp_all [Control.isNumeric, Control.isEnumerated]

theorem coerce_of_isNumeric (h : f.control.isNumeric = true) (s : String) :
    f.coerce (.text s) = (numericInput? s).getD (.text s) := by
  simp [coerce, isEnumerated_of_isNumeric h, h]

theorem coerce_of_spellsNumber {n : Number} (hnumeric : f.control.isNumeric = true)
    (h : Text.SpellsNumber (Text.trim s.toList) n) : f.coerce (.text s) = .number n := by
  rw [coerce_of_isNumeric hnumeric, numericInput?_of_spellsNumber h, Option.getD_some]

/-! ## What passes -/

theorem problem?_eq_none_iff (henum : f.control.isEnumerated = false) {v : Option Json} :
    f.problem? v l = none ↔ f.rules.check v = .ok () := by
  refine ⟨check_of_problem?_eq_none, ?_⟩
  intro h
  cases v <;> simp [problem?, h, henum]

/-- A blank text, and one that spells a double that is no number, is refused like no text. -/
theorem check_coerce_of_missing (hnumeric : f.control.isNumeric = true)
    (hrequired : f.rules.required = true)
    (h : Text.allBlank s = true ∨ Text.SpellsNonFinite (Text.trim s.toList)) :
    f.rules.check (some (f.coerce (.text s))) = .error .required := by
  have hnull : numericInput? s = some .null := by
    rcases h with hblank | hnonFinite
    · exact numericInput?_of_blank hblank
    · exact numericInput?_of_spellsNonFinite hnonFinite
  rw [coerce_of_isNumeric hnumeric, hnull]
  simp [Rules.check, isBlankValue, Json.isBlank, hrequired]

theorem check_coerce_of_read?_eq_none (hnumeric : f.control.isNumeric = true)
    (hrange : f.rules.hasRange = true) (hblank : Text.allBlank s = false)
    (h : Binary64.read? (Text.trim s.toList) = none) :
    f.coerce (.text s) = .text s ∧ f.rules.check (some (f.coerce (.text s))) =
      (f.rules.checkLength s.length).bind fun _ ↦ .error .notNumber := by
  have hstored : f.coerce (.text s) = .text s := by
    rw [coerce_of_isNumeric hnumeric, numericInput?_of_read?_eq_none hblank h, Option.getD_none]
  refine ⟨hstored, ?_⟩
  rw [hstored, Rules.check_text hblank, Rules.checkText, hblank, Bool.and_false,
    if_neg Bool.false_ne_true, if_pos hrange, h]
  rfl

theorem exists_spellsNumber_of_check (hnumeric : f.control.isNumeric = true)
    (hrequired : f.rules.required = true) (hrange : f.rules.hasRange = true)
    (h : f.rules.check (some (f.coerce (.text s))) = .ok ()) :
    ∃ n, Text.SpellsNumber (Text.trim s.toList) n := by
  -- a text of another kind would be refused
  by_cases hblank : Text.allBlank s = true
  · cases h.symm.trans (check_coerce_of_missing hnumeric hrequired (.inl hblank))
  rcases Text.spellsNumber_or (Text.trim s.toList) with hnumber | hnonFinite | hread
  · exact hnumber
  · cases h.symm.trans (check_coerce_of_missing hnumeric hrequired (.inr hnonFinite))
  · have herror := (check_coerce_of_read?_eq_none hnumeric hrange (Bool.not_eq_true _ ▸ hblank)
      hread).2
    obtain ⟨-, -, hnot⟩ := Except.bind_eq_ok_iff.mp (herror.symm.trans h)
    cases hnot

/-- In a required number control with a bound on the size a text passes exactly when it spells a
number that satisfies the rules, and that number is what is stored. Blank texts, the words for an
infinity and for `nan`, and literals beyond all doubles are refused as missing; a text that is no
double is stored as it is and refused for its length or as no number. The form has no objections of
its own. -/
theorem check_typedText_iff (hcontrol : f.control = .inputNumber)
    (hrequired : f.rules.required = true) (hrange : f.rules.hasRange = true) (s : String) :
    (f.rules.check (some (f.coerce (.text s))) = .ok () ↔
      ∃ n, Text.SpellsNumber (Text.trim s.toList) n ∧
        f.rules.checkNumber n.toBinary64 = .ok ()) ∧
    (∀ l, f.problem? (some (f.coerce (.text s))) l = none ↔
      f.rules.check (some (f.coerce (.text s))) = .ok ()) ∧
    (∀ n, Text.SpellsNumber (Text.trim s.toList) n → f.coerce (.text s) = .number n) ∧
    (Text.allBlank s = true ∨ Text.SpellsNonFinite (Text.trim s.toList) ∨
        (∃ w ∈ ["inf", "infinity", "nan"], Text.IsWord w.toList (Text.trim s.toList)) →
      f.rules.check (some (f.coerce (.text s))) = .error .required) ∧
    (Text.allBlank s = false → Binary64.read? (Text.trim s.toList) = none →
      f.coerce (.text s) = .text s ∧ f.rules.check (some (f.coerce (.text s))) =
        (f.rules.checkLength s.length).bind fun _ ↦ .error .notNumber) := by
  have hnumeric : f.control.isNumeric = true := by rw [hcontrol, Control.isNumeric]
  have hstored : ∀ n, Text.SpellsNumber (Text.trim s.toList) n → f.coerce (.text s) = .number n :=
    fun n hn ↦ coerce_of_spellsNumber hnumeric hn
  refine ⟨?_, fun l ↦ problem?_eq_none_iff (isEnumerated_of_isNumeric hnumeric), hstored, ?_,
    check_coerce_of_read?_eq_none hnumeric hrange⟩
  · constructor
    · intro h
      obtain ⟨n, hn⟩ := exists_spellsNumber_of_check hnumeric hrequired hrange h
      rw [hstored n hn] at h
      exact ⟨n, hn, h⟩
    · rintro ⟨n, hn, hcheck⟩
      rw [hstored n hn]
      exact hcheck
  · rintro (hblank | hnonFinite | ⟨w, hw, hword⟩)
    · exact check_coerce_of_missing hnumeric hrequired (.inl hblank)
    · exact check_coerce_of_missing hnumeric hrequired (.inr hnonFinite)
    · exact check_coerce_of_missing hnumeric hrequired
        (.inr (Text.spellsNonFinite_of_isWord hw hword))

/-- A number control for a port that has to be given. -/
def samplePort : Field where
  name := "port"
  control := .inputNumber
  labelKey := "custom.Port"
  rules := .samplePort

/-- A port with blanks around it is stored as a number; a literal beyond all doubles is refused. -/
theorem check_typedText_of_samplePort :
    samplePort.control = .inputNumber ∧ samplePort.rules.required = true ∧
      samplePort.rules.hasRange = true ∧
      samplePort.rules.check (some (samplePort.coerce (.text " 8080 "))) = .ok () ∧
      samplePort.coerce (.text " 8080 ") = .number (.integer 8080) ∧
      samplePort.rules.check (some (samplePort.coerce (.text "1e400"))) = .error .required := by
  have hspells : Text.SpellsNumber (Text.trim " 8080 ".toList) (.integer 8080) :=
    .integer (k := 8080) (by decide +kernel)
  have hcheck : samplePort.rules.checkNumber (Number.integer 8080).toBinary64 = .ok () := by
    decide +kernel
  have hbeyond : Text.SpellsNonFinite (Text.trim "1e400".toList) :=
    ⟨.infinite false, by decide +kernel, rfl⟩
  obtain ⟨hpasses, -, hstored, -⟩ := check_typedText_iff (f := samplePort) rfl rfl rfl " 8080 "
  obtain ⟨-, -, -, hmissing, -⟩ := check_typedText_iff (f := samplePort) rfl rfl rfl "1e400"
  exact ⟨rfl, rfl, rfl, hpasses.mpr ⟨_, hspells, hcheck⟩, hstored _ hspells,
    hmissing (.inr (.inl hbeyond))⟩

end Field

end EntityForms
