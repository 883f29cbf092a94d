import EntityForms.Json
import EntityForms.Text.Quoted

/-!
# JSON values in text

Messages and list cells show a JSON value without spaces. A text escapes the quote, the backslash
and the characters below U+0020 and no others. A number with a fraction has at least one digit on
both sides of its point, and an exponent outside of 10⁻⁵ to 10¹⁶.
-/

namespace EntityForms

/-- Numbers of JSON texts: the point in place from 10⁻⁵ up to 10¹⁶, ties to the even decimal. -/
def Json.layout : Layout where
  positional p := -4 ≤ p && p ≤ 16
  keepsPoint := true
  tie := .even

/-- A number as JSON text. -/
def Number.text : Number → String
  | .integer n _ => Text.writeInt n
  | .float x _ => x.text Json.layout

namespace Json

/-- One character as it is written in a JSON text. -/
def escaped (c : Char) : List Char :=
  match c with
  | '"' => ['\\', '"']
  | '\\' => ['\\', '\\']
  | '\x08' => ['\\', 'b']
  | '\x0c' => ['\\', 'f']
  | '\n' => ['\\', 'n']
  | '\r' => ['\\', 'r']
  | '\t' => ['\\', 't']
  | c =>
    if c.toNat < 0x20 then
      ['\\', 'u', '0', '0', Nat.digitChar (c.toNat / 16), Nat.digitChar (c.toNat % 16)]
    else [c]

/-- A text as a JSON string literal. -/
def literal (s : String) : String :=
  String.ofList ('"' :: s.toList.flatMap escaped ++ ['"'])

mutual

/-- The value as JSON text without spaces. -/
def compact : Json → String
  | .null => "null"
  | .bool value => if value then "true" else "false"
  | .number value => value.text
  | .text value => literal value
  | .list items => "[" ++ ",".intercalate (compactItems items) ++ "]"
  | .object members => "\x7b" ++ ",".intercalate (compactMembers members) ++ "\x7d"

/-- The items of a list, each as JSON text. -/
def compactItems : List Json → List String
  | [] => []
  | item :: items => compact item :: compactItems items

/-- The members of an object, each as a key, a colon and a value. -/
def compactMembers {first : Option String} : Ascending Json first → List String
  | .nil => []
  | .cons key value rest _ => (literal key ++ ":" ++ compact value) :: compactMembers rest

end

mutual

/-- The value as a list cell shows it: a text as it is, a list by its items with commas between. -/
def display : Json → String
  | .text value => value
  | .list items => ",".intercalate (displayItems items)
  | .null => compact .null
  | .bool value => compact (.bool value)
  | .number value => compact (.number value)
  | .object members => compact (.object members)

/-- The items of a list, each as a list cell shows it. -/
def displayItems : List Json → List String
  | [] => []
  | item :: items => display item :: displayItems items

end

end Json

end EntityForms
