import EntityForms.Proofs.Form.Choices
import EntityForms.Proofs.Form.Typing

/-!
# Declarations that make a table

What a defect says of a field is told for each defect by itself (`Field.HasDefect`), and the one
that is found is the first of them in a fixed order. A field without any is well-formed
(`Field.IsWellFormed`). A list of fields makes a table when all are well-formed and no two have the
same name; otherwise the field at the first position at fault is reported, by its defect if it has
one, and as a repetition if it has none.

The positions of the fields are entered in the same pass as they are checked. The index of an
accepted table therefore leads from each name to the place where its field stands, and the table
finds through it what a scan of the fields finds (`FieldTable.GivesOut`).
-/

namespace EntityForms

theorem Text.allBlank_iff_trimmed_eq {s : String} : allBlank s = true ↔ trimmed s = "" := by
  rw [allBlank_iff, trimmed]
  simp

/-! ## One field -/

namespace Field

/-- What a defect says of a field. -/
def HasDefect (f : Field) : Defect → Prop
  | .emptyName => Text.trimmed f.name = ""
  | .emptyLabelKey => Text.trimmed f.labelKey = ""
  | .noChoices => f.control.isEnumerated = true ∧ f.choices = []
  | .duplicateChoice => f.control.isEnumerated = true ∧ ¬(f.choices.map Choice.value).Nodup
  | .initialNotAChoice =>
    f.control.isEnumerated = true ∧ ∃ v ∈ f.initial, v ∉ f.choices.map Choice.value
  | .minAboveMax => ∃ min ∈ f.rules.min, ∃ max ∈ f.rules.max, max < min
  | .undeclaredTransform => False

instance (f : Field) : DecidablePred f.HasDefect
  | .emptyName => inferInstanceAs (Decidable (Text.trimmed f.name = ""))
  | .emptyLabelKey => inferInstanceAs (Decidable (Text.trimmed f.labelKey = ""))
  | .noChoices => inferInstanceAs (Decidable (f.control.isEnumerated = true ∧ f.choices = []))
  | .duplicateChoice => inferInstanceAs (Decidable
      (f.control.isEnumerated = true ∧ ¬(f.choices.map Choice.value).Nodup))
  | .initialNotAChoice => inferInstanceAs (Decidable
      (f.control.isEnumerated = true ∧ ∃ v ∈ f.initial, v ∉ f.choices.map Choice.value))
  | .minAboveMax => inferInstanceAs (Decidable
      (∃ min ∈ f.rules.min, ∃ max ∈ f.rules.max, max < min))
  | .undeclaredTransform => inferInstanceAs (Decidable False)

/-- The defects that a field can have, in the order in which they are looked for. -/
def Defect.inOrder : List Defect :=
  [.emptyName, .emptyLabelKey, .noChoices, .duplicateChoice, .initialNotAChoice, .minAboveMax]

variable {f : Field}

theorem hasCrossedRange_iff : f.hasCrossedRange = true ↔ f.HasDefect .minAboveMax := by
  rw [hasCrossedRange, HasDefect]
  cases f.rules.min <;> cases f.rules.max <;> simp

theorem find?_hasDefect_cons (f : Field) (d : Defect) (ds : List Defect) :
    ((d :: ds).find? fun d ↦ f.HasDefect d) =
      if f.HasDefect d then some d else ds.find? fun d ↦ f.HasDefect d := by
  rw [List.find?_cons]
  by_cases h : f.HasDefect d <;> simp [h]

theorem choicesDefect?_eq_find? (h : f.control.isEnumerated = true) :
    f.choicesDefect? =
      [Defect.noChoices, .duplicateChoice, .initialNotAChoice].find? fun d ↦ f.HasDefect d := by
  have hempty : (f.choices.map Choice.value).isEmpty = true ↔ f.HasDefect .noChoices := by
    simp [HasDefect, h]
  have hdup : ¬(f.choices.map Choice.value).Pairwise (· ≠ ·) ↔ f.HasDefect .duplicateChoice := by
    simp [HasDefect, h, List.Nodup]
  have hinitial : (f.initial.any (· ∉ f.choices.map Choice.value)) = true ↔
      f.HasDefect .initialNotAChoice := by
    simp only [HasDefect, h, Option.any_eq_true, true_and]
    simp
  simp only [choicesDefect?, find?_hasDefect_cons, List.find?_nil, hempty, hdup, hinitial]

theorem defect?_eq_find? (f : Field) : f.defect? = Defect.inOrder.find? fun d ↦ f.HasDefect d := by
  have hname : Text.allBlank f.name = true ↔ f.HasDefect .emptyName :=
    Text.allBlank_iff_trimmed_eq
  have hlabel : Text.allBlank f.labelKey = true ↔ f.HasDefect .emptyLabelKey :=
    Text.allBlank_iff_trimmed_eq
  have hsplit : Defect.inOrder = .emptyName :: .emptyLabelKey ::
    ([.noChoices, .duplicateChoice, .initialNotAChoice] ++ [.minAboveMax]) := rfl
  rw [hsplit, find?_hasDefect_cons, find?_hasDefect_cons, List.find?_append, defect?]
  simp only [hname, hlabel, hasCrossedRange_iff, find?_hasDefect_cons _ .minAboveMax,
    List.find?_nil]
  by_cases h : f.control.isEnumerated = true
  · rw [if_pos h, choicesDefect?_eq_find? h]
  · -- without options the defects of options are out of the question
    have hnone : ([Defect.noChoices, .duplicateChoice, .initialNotAChoice].find? fun d ↦
        f.HasDefect d) = none := by
      simp [HasDefect, h]
    rw [if_neg h, hnone, Option.none_or]

/-- A declaration without a defect: the field has a name and the key of a label, it offers different
options to choose from if its values are chosen, its initial value is one of them, and its bounds
leave room between them. -/
structure IsWellFormed (f : Field) : Prop where
  name : Text.trimmed f.name ≠ ""
  labelKey : Text.trimmed f.labelKey ≠ ""
  choices : f.control.isEnumerated = true → f.choices ≠ [] ∧
    (f.choices.map Choice.value).Nodup ∧
    ∀ v, f.initial = some v → v ∈ f.choices.map Choice.value
  range : ∀ min max, f.rules.min = some min → f.rules.max = some max → ¬max < min

theorem isWellFormed_iff : f.IsWellFormed ↔ ∀ d ∈ Defect.inOrder, ¬f.HasDefect d := by
  simp only [Defect.inOrder, List.forall_mem_cons, HasDefect, not_and, not_exists, not_not]
  constructor
  · rintro ⟨hname, hlabel, hchoices, hrange⟩
    exact ⟨hname, hlabel, fun h ↦ (hchoices h).1, fun h ↦ (hchoices h).2.1,
      fun h ↦ (hchoices h).2.2, fun min hmin max hmax ↦ hrange min max hmin hmax,
      fun _ h ↦ absurd h List.not_mem_nil⟩
  · rintro ⟨hname, hlabel, hsome, hdistinct, hinitial, hrange, -⟩
    exact ⟨hname, hlabel, fun h ↦ ⟨hsome h, hdistinct h, hinitial h⟩,
      fun min max hmin hmax ↦ hrange min hmin max hmax⟩

theorem defect?_eq_none_iff : f.defect? = none ↔ f.IsWellFormed := by
  rw [defect?_eq_find?, List.find?_eq_none, isWellFormed_iff]
  simp

/-- What is reported of a field at fault: its first defect, or that its name is repeated. -/
def report (entity : String) (f : Field) : ConfigurationError :=
  match Defect.inOrder.find? fun d ↦ f.HasDefect d with
  | some d => .malformedField entity f.name d
  | none => .duplicateField entity f.name

end Field

/-! ## The first fault -/

namespace FieldTable

variable {entity : String} {index : Dictionary Nat} {position : Nat} {f : Field}
  {fields : List Field} {i : Nat} {e : ConfigurationError}

/-- The field at a position is at fault: it is malformed, or it repeats the name of a field before
it. -/
def IsFaultAt (fields : List Field) (i : Nat) : Prop :=
  ∃ f, fields[i]? = some f ∧ (¬f.IsWellFormed ∨ f.name ∈ (fields.take i).map Field.name)

/-- The same where the names in an index are taken beforehand. -/
def IsFaultAfter (index : Dictionary Nat) (fields : List Field) (i : Nat) : Prop :=
  ∃ f, fields[i]? = some f ∧ (¬f.IsWellFormed ∨ index.contains f.name = true ∨
    f.name ∈ (fields.take i).map Field.name)

theorem isFaultAfter_empty : IsFaultAfter .empty fields i ↔ IsFaultAt fields i := by
  simp [IsFaultAfter, IsFaultAt]

theorem isFaultAfter_cons_zero :
    IsFaultAfter index (f :: fields) 0 ↔ ¬f.IsWellFormed ∨ index.contains f.name = true := by
  simp [IsFaultAfter]

theorem isFaultAfter_cons_succ : IsFaultAfter index (f :: fields) (i + 1) ↔
    IsFaultAfter (index.insert f.name position) fields i := by
  simp only [IsFaultAfter, List.getElem?_cons_succ, List.take_succ_cons, List.map_cons,
    List.mem_cons, Dictionary.contains_insert, Bool.or_eq_true, beq_iff_eq]
  refine exists_congr fun g ↦ and_congr_right fun _ ↦ or_congr_right ?_
  rw [or_left_comm, or_assoc, eq_comm]

theorem enter_cons_of_fault (h : ¬f.IsWellFormed ∨ index.contains f.name = true)
    (entity : String) (position : Nat) (fields : List Field) :
    enter entity index position (f :: fields) = .error (f.report entity) := by
  rw [enter, Field.report, ← Field.defect?_eq_find?]
  rcases hdefect : f.defect? with _ | d
  · have htaken := h.resolve_left (not_not_intro (Field.defect?_eq_none_iff.mp hdefect))
    simp only [if_pos htaken]
  · rfl

theorem enter_cons_of_not_fault (h : ¬(¬f.IsWellFormed ∨ index.contains f.name = true))
    (entity : String) (position : Nat) (fields : List Field) :
    enter entity index position (f :: fields) =
      enter entity (index.insert f.name position) (position + 1) fields := by
  obtain ⟨hformed, hfree⟩ := not_or.mp h
  rw [enter, Field.defect?_eq_none_iff.mpr (not_not.mp hformed)]
  exact if_neg hfree

theorem enter_eq_error_iff : enter entity index position fields = .error e ↔
    ∃ i f, fields[i]? = some f ∧ IsFaultAfter index fields i ∧
      (∀ j < i, ¬IsFaultAfter index fields j) ∧ e = f.report entity := by
  induction fields generalizing index position with
  | nil => simp [enter]
  | cons f fields ih =>
    by_cases h : ¬f.IsWellFormed ∨ index.contains f.name = true
    · have hzero : IsFaultAfter index (f :: fields) 0 := isFaultAfter_cons_zero.mpr h
      rw [enter_cons_of_fault h, Except.error.injEq]
      constructor
      · rintro rfl
        exact ⟨0, f, rfl, hzero, fun j hj ↦ absurd hj (Nat.not_lt_zero j), rfl⟩
      · rintro ⟨i, g, hg, -, hfirst, rfl⟩
        obtain rfl : i = 0 := Nat.eq_zero_of_not_pos fun hi ↦ hfirst 0 hi hzero
        rw [Option.some.inj hg]
    · rw [enter_cons_of_not_fault h, ih]
      constructor
      · rintro ⟨i, g, hg, hfault, hfirst, he⟩
        refine ⟨i + 1, g, hg, isFaultAfter_cons_succ.mpr hfault, fun j hj ↦ ?_, he⟩
        rcases j with _ | j
        · exact mt isFaultAfter_cons_zero.mp h
        · exact mt isFaultAfter_cons_succ.mp (hfirst j (Nat.lt_of_succ_lt_succ hj))
      · rintro ⟨i, g, hg, hfault, hfirst, he⟩
        rcases i with _ | i
        · exact absurd (isFaultAfter_cons_zero.mp hfault) h
        · exact ⟨i, g, hg, isFaultAfter_cons_succ.mp hfault, fun j hj ↦
            mt isFaultAfter_cons_succ.mpr (hfirst (j + 1) (Nat.succ_lt_succ hj)), he⟩

/-! ## Accepted declarations -/

/-- A table gives out the fields that were declared. Its index leads from the name of each to its
position, and from nothing else to anywhere; under a name the table finds the field that a scan
finds. The fields that list views and forms show come in their order, and a fresh form holds the
initial values where a field has one. -/
structure GivesOut (t : FieldTable) (fields : List Field) : Prop where
  fields_eq : t.fields = fields
  index_iff : ∀ name i, t.index.get? name = some i ↔ ∃ f, fields[i]? = some f ∧ f.name = name
  get?_eq_find? : ∀ name, t.get? name = fields.find? fun f ↦ f.name == name
  get?_name : ∀ (i : Nat) f, fields[i]? = some f → t.get? f.name = some f
  get?_other : ∀ name, name ∉ fields.map Field.name → t.get? name = none
  contains_eq : ∀ name, t.contains name = (t.get? name).isSome
  columns : t.columns.Sublist fields ∧ ∀ f, f ∈ t.columns ↔ f ∈ fields ∧ f.isColumn = true
  formFields : ∀ mode, (t.formFields mode).Sublist fields ∧
    ∀ f, f ∈ t.formFields mode ↔ f ∈ fields ∧ ¬(f.createOnly = true ∧ mode = .edit)
  initialRecord : ∀ name, name ∈ t.initialRecord.keys ↔
    ∃ f ∈ fields, f.name = name ∧ f.initial.isSome = true
  initialValue : ∀ f ∈ fields, t.initialRecord.get? f.name = f.initial.map StaticValue.toJson

theorem givesOut_fields (t : FieldTable) : t.GivesOut t.fields where
  fields_eq := rfl
  index_iff name i := by
    rw [t.indexed, List.findIdx?_map]
    exact findIdx?_key_eq_some_iff t.nodup_names
  get?_eq_find? := t.get?_eq_find?
  get?_name i f hf := get?_of_mem (List.mem_of_getElem? hf)
  get?_other name hname := by
    rw [get?_eq_none_iff, Bool.eq_false_iff, Ne, contains_iff]
    rintro ⟨f, hf, rfl⟩
    exact hname (List.mem_map_of_mem hf)
  contains_eq name := (t.isSome_get? name).symm
  columns := ⟨List.filter_sublist, fun f ↦ List.mem_filter⟩
  formFields mode := by
    refine ⟨List.filter_sublist, fun f ↦ ?_⟩
    rw [FieldTable.formFields, List.mem_filter, Field.isVisible]
    cases f.createOnly <;> simp
  initialRecord name := by
    rw [Dictionary.mem_keys_iff, ← Dictionary.contains, contains_initialRecord]
  initialValue f hf := get?_initialRecord hf

theorem exists_build_iff : (∃ t, build entity fields = .ok t) ↔
    (∀ f ∈ fields, f.IsWellFormed) ∧ (fields.map Field.name).Nodup := by
  simp only [build_eq_ok_iff, ← Field.defect?_eq_none_iff]
  constructor
  · rintro ⟨t, -, rfl⟩
    exact ⟨t.defect?_eq_none, t.nodup_names⟩
  · rintro ⟨hdefect, hnames⟩
    exact ⟨.ofFields entity fields hdefect hnames, rfl, rfl⟩

/--
A declaration makes a table exactly when each of its fields is well-formed and no two have the same
name. Otherwise the first field at fault is reported: its first defect, or else that it repeats a
name. The table gives out the fields that were declared.
-/
theorem build_givesOut_or_reports_first_fault (entity : String) (fields : List Field) :
    ((∃ t, build entity fields = .ok t) ↔
      (∀ f ∈ fields, f.IsWellFormed) ∧ (fields.map Field.name).Nodup) ∧
    (∀ e, build entity fields = .error e ↔ ∃ i f, fields[i]? = some f ∧ IsFaultAt fields i ∧
      (∀ j < i, ¬IsFaultAt fields j) ∧ e = f.report entity) ∧
    ∀ t, build entity fields = .ok t → t.entity = entity ∧ t.GivesOut fields := by
  refine ⟨exists_build_iff, fun e ↦ ?_, fun t ht ↦ ?_⟩
  · simp only [build_eq_error_iff, enter_eq_error_iff, isFaultAfter_empty]
  · obtain ⟨hentity, rfl⟩ := build_eq_ok_iff.mp ht
    exact ⟨hentity, t.givesOut_fields⟩

/-- A field that repeats a name and has two defects, after a field without a fault. -/
def sampleFaults : List Field :=
  [Field.sampleKind, { Field.sampleKind with labelKey := " ", choices := [] }]

/-- The first defect of the second field is reported, and not that it repeats a name. The first
field makes a table on its own, and one of two of its kind is a repetition. -/
theorem first_fault_of_sampleFaults :
    build "Custom" sampleFaults = .error (.malformedField "Custom" "kind" .emptyLabelKey) ∧
      build "Custom" [Field.sampleKind, Field.sampleKind] =
        .error (.duplicateField "Custom" "kind") ∧
      ∃ t, build "Custom" [Field.sampleKind] = .ok t ∧ t.GivesOut [Field.sampleKind] := by
  have hformed : Field.sampleKind.IsWellFormed := Field.isWellFormed_iff.mpr (by decide)
  have hfirst : ∀ rest, ∀ j < 1, ¬IsFaultAt (Field.sampleKind :: rest) j := by
    rintro rest j hj ⟨f, hf, hfault⟩
    obtain rfl : j = 0 := Nat.lt_one_iff.mp hj
    obtain rfl := Option.some.inj hf
    exact hfault.elim (fun h ↦ h hformed) fun h ↦ absurd h List.not_mem_nil
  refine ⟨?_, ?_, _, rfl,
    ((build_givesOut_or_reports_first_fault "Custom" [Field.sampleKind]).2.2 _ rfl).2⟩
  · refine ((build_givesOut_or_reports_first_fault "Custom" sampleFaults).2.1 _).mpr
      ⟨1, _, rfl, ?_, hfirst _, rfl⟩
    exact ⟨_, rfl, .inl fun h ↦ h.labelKey (by decide)⟩
  · refine ((build_givesOut_or_reports_first_fault "Custom"
      [Field.sampleKind, Field.sampleKind]).2.1 _).mpr ⟨1, _, rfl, ?_, hfirst _, rfl⟩
    exact ⟨_, rfl, .inr List.mem_cons_self⟩

end FieldTable

end EntityForms
