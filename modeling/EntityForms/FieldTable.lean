import EntityForms.Field
import EntityForms.KeyIndex

/-!
# Field tables

A field table is the declaration of an entity's fields, in the order in which forms and lists show
them. `FieldTable.build` accepts a declaration when no field has a defect and no name occurs twice;
otherwise it reports the first field at fault, a defect before a repeated name.
-/

namespace EntityForms

/-- What is wrong with the declaration of a field. -/
inductive Field.Defect where
  | emptyName
  | emptyLabelKey
  | noChoices
  | duplicateChoice
  | initialNotAChoice
  | minAboveMax
  /-- The codec transforms a field that is not declared. -/
  | undeclaredTransform
  deriving DecidableEq, Repr

/-- The reason that a message gives for a defect. -/
def Field.Defect.reason : Defect → String
  | .emptyName => "empty field name"
  | .emptyLabelKey => "empty localization key"
  | .noChoices => "enumerated field without options"
  | .duplicateChoice => "duplicate option value"
  | .initialNotAChoice => "initial value is not one of the options"
  | .minAboveMax => "min greater than max"
  | .undeclaredTransform => "codec transform for an undeclared field"

/-- Why a declaration cannot be used. -/
inductive ConfigurationError where
  | duplicateField (entity field : String)
  | malformedField (entity field : String) (defect : Field.Defect)
  | duplicateEntity (index : String)
  | duplicateStatus (table value : String)
  deriving DecidableEq, Repr

/-- The message of a configuration error. -/
def ConfigurationError.message : ConfigurationError → String
  | .duplicateField entity field =>
    "entity " ++ entity ++ ": duplicate field name '" ++ field ++ "'"
  | .malformedField entity field defect =>
    "entity " ++ entity ++ ": malformed descriptor '" ++ field ++ "': " ++ defect.reason
  | .duplicateEntity index => "entity " ++ index ++ " is registered twice"
  | .duplicateStatus table value =>
    "status table " ++ table ++ ": duplicate value '" ++ value ++ "'"

namespace Field

/-- What is wrong with the options of a field whose values are chosen among them. -/
def choicesDefect? (f : Field) : Option Defect :=
  let values := f.choices.map Choice.value
  if values.isEmpty then some .noChoices
  else if ¬ values.Pairwise (· ≠ ·) then some .duplicateChoice
  else if f.initial.any (· ∉ values) then some .initialNotAChoice
  else none

/-- Whether the rules ask for a number above `max` or below `min`. -/
def hasCrossedRange (f : Field) : Bool :=
  match f.rules.min, f.rules.max with
  | some min, some max => max < min
  | _, _ => false

/-- The first defect in the declaration of a field. -/
def defect? (f : Field) : Option Defect :=
  if Text.allBlank f.name then some .emptyName
  else if Text.allBlank f.labelKey then some .emptyLabelKey
  else
    let crossed := if f.hasCrossedRange then some .minAboveMax else none
    if f.control.isEnumerated then f.choicesDefect?.or crossed else crossed

end Field

/-- The fields of an entity in the order of their declaration, with an index of their names. -/
structure FieldTable where
  /-- The name of the entity. -/
  entity : String
  fields : List Field
  /-- The position of each field, by its name. -/
  index : Dictionary Nat
  defect?_eq_none : ∀ f ∈ fields, f.defect? = none
  nodup_names : (fields.map Field.name).Nodup
  indexed : Indexes index.get? (fields.map Field.name)

namespace FieldTable

/-- Check fields one after the other and enter the position of each under its name. -/
def enter (entity : String) (index : Dictionary Nat) (position : Nat) :
    List Field → Except ConfigurationError (Dictionary Nat)
  | [] => .ok index
  | f :: fields =>
    match f.defect? with
    | some defect => .error (.malformedField entity f.name defect)
    | none =>
      if index.contains f.name then .error (.duplicateField entity f.name)
      else enter entity (index.insert f.name position) (position + 1) fields

/-- The names of fields with the positions that they have from `start` on. -/
def positions (start : Nat) (fields : List Field) : List (String × Nat) :=
  (fields.zipIdx start).map fun (f, position) ↦ (f.name, position)

/-! ## Entering fields -/

section Entering

variable {entity : String} {index index' : Dictionary Nat} {before fields : List Field} {f : Field}

theorem eq_of_indexes {names : List String} (h : Indexes index.get? names)
    (h' : Indexes index'.get? names) : index = index' :=
  Dictionary.ext_get? fun name ↦ (h name).trans (h' name).symm

theorem contains_iff_of_indexes (h : Indexes index.get? (before.map Field.name)) (name : String) :
    index.contains name = true ↔ name ∈ before.map Field.name :=
  h.isSome_iff

theorem indexes_insert (h : Indexes index.get? (before.map Field.name))
    (hnew : f.name ∉ before.map Field.name) :
    Indexes (index.insert f.name before.length).get? ((before ++ [f]).map Field.name) := by
  rw [List.map_append]
  exact h.concat hnew fun name ↦ by rw [Dictionary.get?_insert, List.length_map]

/-- Fields are entered when none has a defect and every name is a new one; the index leads to all of
them then. -/
theorem enter_eq_ok_iff (before : List Field)
    (hindex : Indexes index.get? (before.map Field.name))
    (hnames : (before.map Field.name).Nodup) :
    enter entity index before.length fields = .ok index' ↔
      (∀ f ∈ fields, f.defect? = none) ∧ ((before ++ fields).map Field.name).Nodup ∧
        Indexes index'.get? ((before ++ fields).map Field.name) := by
  induction fields generalizing before index with
  | nil =>
    rw [enter, List.append_nil, Except.ok.injEq]
    constructor
    · rintro rfl
      exact ⟨fun f hf ↦ absurd hf List.not_mem_nil, hnames, hindex⟩
    · rintro ⟨-, -, hindex'⟩
      exact eq_of_indexes hindex hindex'
  | cons f fields ih =>
    rw [enter, List.append_cons, List.forall_mem_cons]
    cases hdefect : f.defect? with
    | some defect => simp
    | none =>
      by_cases hnew : f.name ∈ before.map Field.name
      · simp only [if_pos ((contains_iff_of_indexes hindex f.name).mpr hnew)]
        refine iff_of_false (fun h ↦ by cases h) fun h ↦ ?_
        rw [← List.append_cons] at h
        exact key_not_mem_of_nodup h.2.1 hnew
      · have hfree := mt (contains_iff_of_indexes hindex f.name).mp hnew
        have hlength : before.length + 1 = (before ++ [f]).length := by simp
        simp only [if_neg hfree, true_and]
        rw [hlength]
        exact ih _ (indexes_insert hindex hnew) (nodup_map_append_singleton.mpr ⟨hnames, hnew⟩)

theorem enter_empty_eq_ok_iff : enter entity .empty 0 fields = .ok index ↔
    (∀ f ∈ fields, f.defect? = none) ∧ (fields.map Field.name).Nodup ∧
      Indexes index.get? (fields.map Field.name) :=
  enter_eq_ok_iff [] (.nil Dictionary.get?_empty) .nil

/-- Fields with new names can be entered all at once. -/
theorem indexes_insertAll (before : List Field)
    (hindex : Indexes index.get? (before.map Field.name))
    (hnames : ((before ++ fields).map Field.name).Nodup) :
    Indexes (index.insertAll (positions before.length fields)).get?
      ((before ++ fields).map Field.name) := by
  induction fields generalizing before index with
  | nil => simpa [positions] using hindex
  | cons f fields ih =>
    have hnew : f.name ∉ before.map Field.name := key_not_mem_of_nodup hnames
    rw [List.append_cons] at hnames ⊢
    have := ih _ (indexes_insert hindex hnew) hnames
    rwa [List.length_append, List.length_singleton] at this

end Entering

/-! ## Tables -/

/-- The table of these fields, if it can be used. -/
def build (entity : String) (fields : List Field) : Except ConfigurationError FieldTable :=
  match h : enter entity .empty 0 fields with
  | .ok index => .ok {
      entity, fields, index
      defect?_eq_none := (enter_empty_eq_ok_iff.mp h).1
      nodup_names := (enter_empty_eq_ok_iff.mp h).2.1
      indexed := (enter_empty_eq_ok_iff.mp h).2.2 }
  | .error e => .error e

/-- The table of fields that can be used. -/
def ofFields (entity : String) (fields : List Field) (hdefect : ∀ f ∈ fields, f.defect? = none)
    (hnames : (fields.map Field.name).Nodup) : FieldTable where
  entity := entity
  fields := fields
  index := .ofList (positions 0 fields)
  defect?_eq_none := hdefect
  nodup_names := hnames
  indexed := indexes_insertAll [] (.nil Dictionary.get?_empty) hnames

/-- The field of this name, which stands at its position. -/
def get? (t : FieldTable) (name : String) : Option Field :=
  (t.index.get? name).bind fun position ↦ t.fields[position]?

/-- Whether a field of this name is declared. -/
def contains (t : FieldTable) (name : String) : Bool := t.index.contains name

/-- The fields that list views show. -/
def columns (t : FieldTable) : List Field := t.fields.filter Field.isColumn

/-- The fields that the form of this mode shows. -/
def formFields (t : FieldTable) (mode : Mode) : List Field :=
  t.fields.filter fun f ↦ f.isVisible mode

/-- The record of a fresh form: every field that declares an initial value holds it. -/
def initialRecord (t : FieldTable) : Record :=
  .ofList (t.fields.filterMap fun f ↦ f.initial.map fun v ↦ (f.name, v.toJson))

/-- Drop the declared fields that are not sent to the backend; other keys stay. -/
def syncFilter (t : FieldTable) (r : Record) : Record :=
  r.filterKeys fun key ↦ (t.get? key).all Field.isSynced

variable {t u : FieldTable} {entity name : String} {fields : List Field}

/-- The entity and its fields make up a table; the index adds nothing to them. -/
theorem ext (hentity : t.entity = u.entity) (hfields : t.fields = u.fields) : t = u := by
  have hindex := eq_of_indexes (hfields ▸ t.indexed) u.indexed
  cases t
  cases u
  cases hentity
  cases hfields
  cases hindex
  rfl

theorem build_eq_ok_iff :
    build entity fields = .ok t ↔ t.entity = entity ∧ t.fields = fields := by
  constructor
  · intro h
    unfold build at h
    split at h
    · obtain rfl := Except.ok.inj h
      exact ⟨rfl, rfl⟩
    · cases h
  · rintro ⟨rfl, rfl⟩
    have henter : enter t.entity .empty 0 t.fields = .ok t.index :=
      enter_empty_eq_ok_iff.mpr ⟨t.defect?_eq_none, t.nodup_names, t.indexed⟩
    unfold build
    split
    · exact congrArg _ (ext rfl rfl)
    case h_2 h => cases henter.symm.trans h

theorem build_eq_error_iff {e : ConfigurationError} :
    build entity fields = .error e ↔ enter entity .empty 0 fields = .error e := by
  unfold build
  split
  case h_1 h => simp [h]
  case h_2 h => simp [h]

/-- A field is found where a scan comes upon its name first. -/
theorem get?_eq_find? (t : FieldTable) (name : String) :
    t.get? name = t.fields.find? fun f ↦ f.name == name :=
  t.indexed.bind_getElem? name

theorem name_of_get? {f : Field} (h : t.get? name = some f) : f.name = name := by
  rw [get?_eq_find?] at h
  simpa using List.find?_some h

theorem mem_of_get? {f : Field} (h : t.get? name = some f) : f ∈ t.fields := by
  rw [get?_eq_find?] at h
  exact List.mem_of_find?_eq_some h

theorem contains_iff : t.contains name = true ↔ ∃ f ∈ t.fields, f.name = name := by
  rw [contains, contains_iff_of_indexes t.indexed, List.mem_map]

theorem isSome_get? (t : FieldTable) (name : String) :
    (t.get? name).isSome = t.contains name := by
  rw [Bool.eq_iff_iff, contains_iff, get?_eq_find?]
  simp

theorem contains_iff_get? : t.contains name = true ↔ ∃ f, t.get? name = some f := by
  rw [← isSome_get?, Option.isSome_iff_exists]

theorem get?_eq_none_iff : t.get? name = none ↔ t.contains name = false := by
  rw [← isSome_get?]
  simp

/-- A fresh form has exactly the fields that declare an initial value. -/
theorem contains_initialRecord {t : FieldTable} {key : String} :
    t.initialRecord.contains key = true ↔ ∃ f ∈ t.fields, f.name = key ∧ f.initial.isSome := by
  rw [initialRecord, Dictionary.contains_ofList]
  constructor
  · rintro ⟨e, he, rfl⟩
    obtain ⟨f, hf, hfe⟩ := List.mem_filterMap.mp he
    obtain ⟨v, hv, rfl⟩ := Option.map_eq_some_iff.mp hfe
    exact ⟨f, hf, rfl, Option.isSome_of_eq_some hv⟩
  · rintro ⟨f, hf, rfl, hinit⟩
    obtain ⟨v, hv⟩ := Option.isSome_iff_exists.mp hinit
    exact ⟨(f.name, v.toJson), List.mem_filterMap.mpr ⟨f, hf, by rw [hv]; rfl⟩, rfl⟩

theorem contains_of_initialRecord {t : FieldTable} {key : String}
    (h : t.initialRecord.contains key = true) : t.contains key = true := by
  obtain ⟨f, hf, hname, -⟩ := contains_initialRecord.mp h
  exact contains_iff.mpr ⟨f, hf, hname⟩

theorem get?_syncFilter (t : FieldTable) (r : Record) (key : String) :
    (t.syncFilter r).get? key = if (t.get? key).all Field.isSynced then r.get? key else none :=
  Dictionary.get?_filterKeys r _ key

end FieldTable

end EntityForms
