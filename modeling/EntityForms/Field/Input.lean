import EntityForms.Field

/-!
# Input from a control

A control delivers what the user typed or picked. A select or radio control stores the declared
value of the option that the input stands for; a number control stores the number that a text
spells, an integer where it can, and nothing where the text is blank or names no number of JSON.
Other input is stored as it is.
-/

namespace EntityForms

/-- The number that a text in a number control stands for. -/
def numericInput? (s : String) : Option Json :=
  let cs := Text.trim s.toList
  if cs.isEmpty then some .null
  else match Text.readInt64? cs with
    | some n => some (.ofInt64 n)
    | none => (Binary64.read? cs).map .ofBinary64

/-- The value that a field stores for the input of its control. -/
def Field.coerce (f : Field) (input : Json) : Json :=
  if f.control.isEnumerated then
    match f.choiceFor input with
    | some choice => choice.value.toJson
    | none => input
  else if f.control.isNumeric then
    match input with
    | .text s => (numericInput? s).getD input
    | _ => input
  else input

end EntityForms
