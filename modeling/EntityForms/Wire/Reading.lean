import EntityForms.Json.Text

/-!
# Reading typed values

Records of the backend and configuration files are read into types of their own. A reader accepts a
value of the type it stands for and otherwise says what it found and what it expected. This module
holds the errors, which every format shares, and the readers of JSON values.
-/

namespace EntityForms

/-- What a reader came upon. -/
inductive Found where
  | null
  | bool (value : Bool)
  | integer (n : Int)
  /-- A number with a fraction, in the text that its format writes. -/
  | float (shown : String)
  | text (s : String)
  | sequence
  | map
  deriving DecidableEq, Repr

/-- The description of what was found in messages. -/
def Found.description : Found → String
  | .null => "null"
  | .bool value => "boolean `" ++ (if value then "true" else "false") ++ "`"
  | .integer n => "integer `" ++ Text.writeInt n ++ "`"
  | .float shown => "floating point `" ++ shown ++ "`"
  | .text s => "string " ++ Text.quoted s
  | .sequence => "sequence"
  | .map => "map"

/-- Why a value cannot be read. -/
inductive ReadingError where
  /-- The value is of another type. -/
  | invalidType (found : Found) (expected : String)
  /-- The value is of the right type and out of its range. -/
  | invalidValue (found : Found) (expected : String)
  /-- The sequence has the wrong number of items. -/
  | invalidLength (length : Nat) (expected : String)
  | missingField (name : String)
  /-- The name is none of those that there are. -/
  | unknownVariant (name : String) (names : List String)
  /-- The value has none of the forms that the named type admits. -/
  | noVariant (type : String)
  deriving DecidableEq, Repr

/-- The names among which one is expected. -/
def variantNames (names : List String) : String :=
  match names.map fun n ↦ "`" ++ n ++ "`" with
  | [a] => a
  | [a, b] => a ++ " or " ++ b
  | quoted => "one of " ++ ", ".intercalate quoted

/-- The message of a reading error. -/
def ReadingError.message : ReadingError → String
  | .invalidType found expected =>
    "invalid type: " ++ found.description ++ ", expected " ++ expected
  | .invalidValue found expected =>
    "invalid value: " ++ found.description ++ ", expected " ++ expected
  | .invalidLength length expected =>
    "invalid length " ++ Text.writeNat length ++ ", expected " ++ expected
  | .missingField name => "missing field `" ++ name ++ "`"
  | .unknownVariant name names =>
    "unknown variant `" ++ name ++ "`, expected " ++ variantNames names
  | .noVariant type => "data did not match any variant of untagged enum " ++ type

/-! ## Readers of JSON values -/

/-- What a reader finds in a JSON value. -/
def Json.found : Json → Found
  | .null => .null
  | .bool value => .bool value
  | .number (.integer n _) => .integer n
  | .number (.float x _) => .float (x.text Json.layout)
  | .text s => .text s
  | .list _ => .sequence
  | .object _ => .map

/-- A reader takes a JSON value to a value of its type. -/
abbrev Reader (α : Type) := Json → Except ReadingError α

namespace Reader

variable {α : Type}

/-- Read a text. -/
def text : Reader String
  | .text s => .ok s
  | other => .error (.invalidType other.found "a string")

/-- Read an integer that `convert` accepts. -/
def integer (expected : String) (convert : Int → Option α) : Reader α
  | .number (.integer n _) => match convert n with
    | some k => .ok k
    | none => .error (.invalidValue (.integer n) expected)
  | other => .error (.invalidType other.found expected)

/-- Read a signed 64-bit integer. -/
def int64 : Reader Int64 := integer "i64" Text.int64?

/-- Read an unsigned 16-bit integer. -/
def uint16 : Reader UInt16 :=
  integer "u16" fun n ↦ if 0 ≤ n ∧ n < UInt16.size then some (.ofNat n.toNat) else none

/-- Read an unsigned 32-bit integer. -/
def uint32 : Reader UInt32 :=
  integer "u32" fun n ↦ if 0 ≤ n ∧ n < UInt32.size then some (.ofNat n.toNat) else none

/-- Read the items of a list from first to last. -/
def items (reader : Reader α) : List Json → Except ReadingError (List α)
  | [] => .ok []
  | item :: rest => do
    let a ← reader item
    let as ← items reader rest
    .ok (a :: as)

/-- Read a list. -/
def list (reader : Reader α) : Reader (List α)
  | .list values => items reader values
  | other => .error (.invalidType other.found "a sequence")

/-- Read null as absent. -/
def option (reader : Reader α) : Reader (Option α)
  | .null => .ok none
  | value => (reader value).map some

/-- Read one of several names, written as a text or as the one key of an object over null. -/
def variant (names : List String) (ofName? : String → Option α) : Reader α :=
  let named (name : String) : Except ReadingError α := match ofName? name with
    | some a => .ok a
    | none => .error (.unknownVariant name names)
  fun
  | .text s => named s
  | .object members => match members.entries with
    | [(name, value)] => do
      let a ← named name
      match value with
      | .null => .ok a
      | other => .error (.invalidType other.found "unit")
    | _ => .error (.invalidValue .map "map with a single key")
  | other => .error (.invalidType other.found "string or map")

end Reader

/-! ## Members of a record -/

namespace Record

variable {α : Type}

/-- Read a member that has to be there. -/
def required (r : Record) (name : String) (reader : Reader α) : Except ReadingError α :=
  match r.get? name with
  | some value => reader value
  | none => .error (.missingField name)

/-- Read a member that may be absent or null. -/
def optional (r : Record) (name : String) (reader : Reader α) : Except ReadingError (Option α) :=
  match r.get? name with
  | some value => reader.option value
  | none => .ok none

/-- The names of the members of a type, each with the test that its value can be read. -/
abbrev Members := List (String × (Json → Except ReadingError Unit))

/-- A member that a test forgets the value of. -/
def member (name : String) (reader : Reader α) : String × (Json → Except ReadingError Unit) :=
  (name, fun value ↦ (reader value).map fun _ ↦ ())

/-- Test the values of the members that a record has, in the order of its keys. -/
def checkMembers (members : Members) : List (String × Json) → Except ReadingError Unit
  | [] => .ok ()
  | (key, value) :: rest => do
    match members.lookup key with
    | some test => test value
    | none => .ok ()
    checkMembers members rest

end Record

end EntityForms
