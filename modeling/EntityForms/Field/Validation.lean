import EntityForms.Field

/-!
# Validation of a value

A value is checked against the rules of its field. A blank value violates them only when the field
is required. Otherwise the length of a text or list and the size of a number are checked, in this
order, and a rule on the size of a number reads a text as one. The first violation is reported; its
message names the field by its label, unless the rules carry a message of their own.
-/

namespace EntityForms

/-- Why a value does not satisfy the rules. -/
inductive Violation where
  /-- The value is blank. -/
  | required
  /-- The number is below this bound. -/
  | belowMin (bound : Binary64)
  /-- The number is above this bound. -/
  | aboveMax (bound : Binary64)
  /-- The text or list has fewer characters or items than this. -/
  | tooShort (length : Nat)
  /-- The text or list has more characters or items than this. -/
  | tooLong (length : Nat)
  /-- The text does not spell a number. -/
  | notNumber
  /-- No rule applies to a value of this kind. -/
  | unsupported (kind : Json.Kind)
  deriving DecidableEq, Repr

/-- Bounds in messages: never an exponent, and whole numbers without a point. -/
def Violation.layout : Layout where
  positional _ := true
  keepsPoint := false
  tie := .up

/-- What a violation says about the field with this label. -/
def Violation.message (label : String) : Violation → String
  | .required => label ++ " is required"
  | .belowMin bound => label ++ " must be at least " ++ bound.text layout
  | .aboveMax bound => label ++ " must be at most " ++ bound.text layout
  | .tooShort n => label ++ " must contain at least " ++ Text.writeNat n ++ " characters"
  | .tooLong n => label ++ " must not exceed " ++ Text.writeNat n ++ " characters"
  | .notNumber => label ++ " must be a number"
  | .unsupported kind => label ++ " has unsupported value of type " ++ kind.name

namespace Rules

/-- The message of a violation of these rules. -/
def message (rules : Rules) (label : String) (v : Violation) : String :=
  rules.customError.getD (v.message label)

/-- Check the length of a text or list. -/
def checkLength (rules : Rules) (length : Nat) : Except Violation Unit :=
  match rules.minLength.filter (length < ·) with
  | some n => .error (.tooShort n)
  | none => match rules.maxLength.filter (· < length) with
    | some n => .error (.tooLong n)
    | none => .ok ()

/-- Check the size of a number. -/
def checkNumber (rules : Rules) (x : Binary64) : Except Violation Unit :=
  match rules.min.filter fun bound ↦ x < bound with
  | some bound => .error (.belowMin bound)
  | none => match rules.max.filter fun bound ↦ bound < x with
    | some bound => .error (.aboveMax bound)
    | none => .ok ()

/-- Whether the rules bound the size of a number. -/
def hasRange (rules : Rules) : Bool := rules.min.isSome || rules.max.isSome

/-- Check a text; with a bound on its size it has to spell a number. -/
def checkText (rules : Rules) (s : String) : Except Violation Unit :=
  if rules.required && Text.allBlank s then .error .required
  else do
    rules.checkLength s.length
    if rules.hasRange then
      match Binary64.read? (Text.trim s.toList) with
      | some x => rules.checkNumber x
      | none => .error .notNumber

/-- Check a value, which may be absent. -/
def check (rules : Rules) (value : Option Json) : Except Violation Unit :=
  if isBlankValue value then
    if rules.required then .error .required else .ok ()
  else match value with
    | some (.text s) => rules.checkText s
    | some (.number n) => rules.checkNumber n.toBinary64
    | some (.list items) => rules.checkLength items.length
    | some (.object members) => .error (.unsupported (Json.object members).kind)
    | _ => .ok ()

end Rules

end EntityForms
