import EntityForms.Field.Validation
import EntityForms.FieldTable
import EntityForms.Json.Text
import EntityForms.Localization

/-!
# Forms

A form shows the fields of its mode in the order of their declaration, each with the value that the
record at hand holds. It is computed from the record every time, so that render options which
depend on the record are never out of date. `FieldTable.validate` checks every field that the form
shows and collects what is wrong.
-/

namespace EntityForms

/-- An option of a control with its label resolved. -/
structure FormChoice where
  label : String
  value : Json

/-- One control of a form with its texts resolved. -/
structure FormControl where
  name : String
  label : String
  tooltip : Option String
  suffix : Option String
  control : Control
  required : Bool
  choices : List FormChoice
  props : RenderOptions
  value : Option Json

/-- The controls of a form in the order of their declaration. -/
structure Form where
  controls : List FormControl

namespace Form

/-- The control of this name. -/
def control? (form : Form) (name : String) : Option FormControl :=
  form.controls.find? fun c ↦ c.name == name

/-- A form is read-only when it has controls and all of them are disabled. -/
def isReadOnly (form : Form) : Bool :=
  !form.controls.isEmpty && form.controls.all fun c ↦ c.props.disabled

end Form

/-- The control of a field for a record. -/
def Field.formControl (f : Field) (r : Record) (l : Localizer) : FormControl where
  name := f.name
  label := l.display f.labelKey
  tooltip := f.tooltipKey.map l.display
  suffix := f.suffix
  control := f.control
  required := f.rules.required
  choices := f.choices.map fun c ↦ ⟨l.display c.label, c.value.toJson⟩
  props := f.renderOptions r
  value := r.get? f.name

/-- The form of this mode for a record. -/
def FieldTable.form (t : FieldTable) (mode : Mode) (r : Record) (l : Localizer) : Form :=
  ⟨(t.formFields mode).map fun f ↦ f.formControl r l⟩

/-! ## Validation -/

/-- What is wrong with the value of one field. -/
structure FieldError where
  field : String
  message : String
  deriving DecidableEq, Repr

/-- The message of a value that none of the options stands for. -/
def unknownValueMessage (label : String) (value : Json) : String :=
  label ++ " has an unknown value " ++ value.compact

/-- What is wrong with a value of a field: its rules come first, then its options. -/
def Field.problem? (f : Field) (value : Option Json) (l : Localizer) : Option String :=
  let label := l.display f.labelKey
  match f.rules.check value with
  | .error violation => some (f.rules.message label violation)
  | .ok () =>
    match value with
    | some v =>
      if f.control.isEnumerated && !v.isBlank && (f.choiceLabel v).isNone then
        some (unknownValueMessage label v)
      else none
    | none => none

/-- What is wrong with the field of a record. -/
def Field.error? (f : Field) (r : Record) (l : Localizer) : Option FieldError :=
  (f.problem? (r.get? f.name) l).map fun message ↦ ⟨f.name, message⟩

/-- Everything that is wrong with the fields that the form shows, in their order. -/
def FieldTable.validate (t : FieldTable) (mode : Mode) (r : Record) (l : Localizer) :
    List FieldError :=
  (t.formFields mode).filterMap fun f ↦ f.error? r l

end EntityForms
