import EntityForms.Json

/-!
# Fields

An entity declares its fields once, in a table. A `Field` says which control edits the value, how
the value is checked, what it starts with, where it is shown and whether it is sent to the backend;
the form, the list view and the edit session all follow from it. Texts shown to a user are given by
localization keys.
-/

namespace EntityForms

/-- The input control that edits a field. -/
inductive Control where
  | input | inputNumber | password | select | radio | textArea | switch
  deriving DecidableEq, Repr

namespace Control

/-- A field is edited in a plain text box unless it says otherwise. -/
instance : Inhabited Control := ⟨.input⟩

/-- The name of a control. -/
def name : Control → String
  | .input => "input"
  | .inputNumber => "inputnumber"
  | .password => "password"
  | .select => "select"
  | .radio => "radio"
  | .textArea => "textarea"
  | .switch => "switch"

/-- A control whose values are chosen among declared options. -/
def isEnumerated : Control → Bool
  | .select | .radio => true
  | _ => false

/-- A control whose text is read as a number. -/
def isNumeric : Control → Bool
  | .inputNumber => true
  | _ => false

end Control

/-- A value written in a declaration. -/
inductive StaticValue where
  | text (s : String)
  | integer (n : Int64)
  | bool (b : Bool)
  deriving DecidableEq

namespace StaticValue

/-- The record value that a declared value stands for. -/
def toJson : StaticValue → Json
  | .text s => .text s
  | .integer n => .ofInt64 n
  | .bool b => .bool b

/-- Whether a record value stands for this one; a text that spells an integer stands for it. -/
def accepts : StaticValue → Json → Bool
  | .text s, .text t => s == t
  | .integer n, v => v.looseInt64? == some n
  | .bool b, .bool c => b == c
  | _, _ => false

@[simp] theorem accepts_toJson (v : StaticValue) : v.accepts v.toJson = true := by
  cases v <;> simp [accepts, toJson]

@[simp] theorem accepts_null (v : StaticValue) : v.accepts .null = false := by
  cases v <;> rfl

end StaticValue

/-- One option of a select or radio control. -/
structure Choice where
  /-- The localization key of its label. -/
  label : String
  value : StaticValue
  deriving DecidableEq

/-- How a control is rendered for the record at hand. -/
structure RenderOptions where
  disabled : Bool := false
  min : Option Binary64 := none
  max : Option Binary64 := none
  deriving DecidableEq, Repr

/-- The checks on a value. -/
structure Rules where
  required : Bool := false
  min : Option Binary64 := none
  max : Option Binary64 := none
  minLength : Option Nat := none
  maxLength : Option Nat := none
  /-- Replaces the message of every violation. -/
  customError : Option String := none
  deriving DecidableEq, Repr

/-- Whether a form makes a new record or changes an existing one. -/
inductive Mode where
  | create | edit
  deriving DecidableEq, Repr

/-- A form with an id changes the record of that id. -/
def Mode.ofId {ι : Type} : Option ι → Mode
  | none => .create
  | some _ => .edit

/-- The declaration of one field. -/
structure Field where
  /-- The key of the field in a record, unique within its entity. -/
  name : String
  control : Control
  /-- The localization key of the label. -/
  labelKey : String
  rules : Rules := {}
  initial : Option StaticValue := none
  /-- The values that a select or radio control offers. -/
  choices : List Choice := []
  /-- Render options that depend on the record. -/
  dynamic : Option (Record → RenderOptions) := none
  /-- Shown in list views. -/
  isColumn : Bool := false
  /-- Sent to the backend. -/
  isSynced : Bool := false
  /-- Part of the form only while a record is being created. -/
  createOnly : Bool := false
  tooltipKey : Option String := none
  /-- The unit shown after the control. -/
  suffix : Option String := none

namespace Field

/-- Whether the form of this mode shows the field. -/
def isVisible (f : Field) (mode : Mode) : Bool := !(f.createOnly && mode == .edit)

/-- The render options for a record; the bounds of the rules hold where no others are given. -/
def renderOptions (f : Field) (r : Record) : RenderOptions :=
  let own := match f.dynamic with
    | some options => options r
    | none => {}
  { own with min := own.min.or f.rules.min, max := own.max.or f.rules.max }

/-- The first option that stands for a value. -/
def choiceFor (f : Field) (value : Json) : Option Choice :=
  f.choices.find? fun c ↦ c.value.accepts value

/-- The label of the first option that stands for a value. -/
def choiceLabel (f : Field) (value : Json) : Option String := (f.choiceFor value).map Choice.label

@[simp] theorem isVisible_create (f : Field) : f.isVisible .create = true := by
  simp [isVisible]

@[simp] theorem isVisible_edit (f : Field) : f.isVisible .edit = !f.createOnly := by
  simp [isVisible]

end Field

end EntityForms
