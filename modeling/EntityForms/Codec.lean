import EntityForms.Json
import EntityForms.Text.Pieces
import EntityForms.Wire.Reading

/-!
# The codec between wire and form

The backend exchanges some fields as lists of texts that a form edits in one line of delimited
text. An entity declares these fields as a list of `ListTransform`s. `parse` takes a wire record to
a form record when a record is loaded, `stringify` takes it back when the form is saved, and both
leave every other field alone. A list that is still in the shape of the wire is saved as it is.

Every transform reads the record that was given, never the result of a transform before it; so of
several transforms for one field the last decides the value, and the first fault is reported.
-/

namespace EntityForms

/-- In what way the value of a list field has neither of the two shapes. -/
inductive ShapeDefect where
  /-- The list holds something that is not a text. -/
  | itemNotText (kind : Json.Kind)
  /-- The value is neither a list nor a text. -/
  | notAList (kind : Json.Kind)
  /-- The value is a delimited text where a list is needed. -/
  | delimitedText
  deriving DecidableEq, Repr

/-- The shape that should have been there. -/
def ShapeDefect.expected : ShapeDefect → String
  | .notAList _ => "array of strings or delimited string"
  | _ => "array of strings"

/-- The shape that was there. -/
def ShapeDefect.found : ShapeDefect → String
  | .itemNotText kind => "array containing " ++ kind.name
  | .notAList kind => kind.name
  | .delimitedText => Json.Kind.name .string

/-- Why a record cannot be converted. -/
inductive CodecError where
  /-- The field is absent or null. -/
  | missingField (field : String)
  | malformedField (field : String) (defect : ShapeDefect)
  /-- The record is not one of the entity's typed records. -/
  | wireShape (entity : String) (cause : ReadingError)
  deriving DecidableEq, Repr

/-- The message of a codec error. -/
def CodecError.message : CodecError → String
  | .missingField field => "field '" ++ field ++ "' is missing or null"
  | .malformedField field defect =>
    "field '" ++ field ++ "' is malformed: expected " ++ defect.expected ++ ", found " ++
      defect.found
  | .wireShape entity cause =>
    "record does not match wire schema of " ++ entity ++ ": " ++ cause.message

/-- The two shapes of a list of texts. -/
inductive ListShape where
  /-- As the backend exchanges it. -/
  | wire (items : List String)
  /-- As a form edits it. -/
  | ui (text : String)
  deriving DecidableEq, Repr

namespace ListShape

/-- The texts of a list, or the kind of its first item that is none. -/
def texts : List Json → Except Json.Kind (List String)
  | [] => .ok []
  | .text s :: items => (texts items).map (s :: ·)
  | item :: _ => .error item.kind

/-- The shape of a value of the given field. -/
def ofValue (field : String) : Option Json → Except CodecError ListShape
  | none | some .null => .error (.missingField field)
  | some (.text s) => .ok (.ui s)
  | some (.list items) => match texts items with
    | .ok names => .ok (.wire names)
    | .error kind => .error (.malformedField field (.itemNotText kind))
  | some other => .error (.malformedField field (.notAList other.kind))

/-- The shape of a field of a record. -/
def classify (r : Record) (field : String) : Except CodecError ListShape :=
  ofValue field (r.get? field)

/-- The list in the shape of the wire. -/
def toWire (delimiter : Char) : ListShape → List String
  | .wire items => items
  | .ui text => Text.splitNames delimiter text

end ListShape

/-- A field that is a list on the wire and a delimited text in a form. -/
structure ListTransform where
  field : String
  delimiter : Char := ','
  deriving DecidableEq, Repr

namespace ListTransform

/-- The form value of the transformed field. -/
def parseValue (t : ListTransform) (wire : Record) : Except CodecError Json := do
  match ← ListShape.classify wire t.field with
  | .wire items => .ok (.text (Text.joinNames t.delimiter items))
  | .ui _ => .error (.malformedField t.field .delimitedText)

/-- The wire value of the transformed field. -/
def stringifyValue (t : ListTransform) (ui : Record) : Except CodecError Json := do
  let shape ← ListShape.classify ui t.field
  .ok (.ofTexts (shape.toWire t.delimiter))

end ListTransform

/-- The transforms of an entity in the order of their declaration. -/
structure Codec where
  transforms : List ListTransform := []
  deriving DecidableEq, Repr

namespace Codec

/-- The codec that changes nothing. -/
def identity : Codec := {}

/-- Replace each transformed field by a value that is computed from the given record. -/
def replace (value : ListTransform → Record → Except CodecError Json) (r : Record) :
    List ListTransform → Record → Except CodecError Record
  | [], out => .ok out
  | t :: ts, out => do
    let v ← value t r
    replace value r ts (out.insert t.field v)

/-- A wire record as a form record. -/
def parse (c : Codec) (wire : Record) : Except CodecError Record :=
  replace ListTransform.parseValue wire c.transforms wire

/-- A form record as a wire record. -/
def stringify (c : Codec) (ui : Record) : Except CodecError Record :=
  replace ListTransform.stringifyValue ui c.transforms ui

@[simp] theorem identity_parse (wire : Record) : identity.parse wire = .ok wire := rfl

@[simp] theorem identity_stringify (ui : Record) : identity.stringify ui = .ok ui := rfl

end Codec

end EntityForms
