import EntityForms.Ascending
import EntityForms.Binary64.Text
import EntityForms.Text.Blank

/-!
# JSON values

The values a form holds and a backend exchanges. An integer and a number with a fraction are
different values even where they are equal as numbers: `1` can be an id, `1.0` cannot. Only what can
be exchanged is a value here: integers have 64 bits, other numbers are finite, and an object has its
members in the order of their keys, each of them once.
-/

namespace EntityForms

/-- The integers that JSON values hold: those of 64 bits, with a sign or without one. -/
def Number.InRange (n : Int) : Prop := -0x8000000000000000 ≤ n ∧ n < 0x10000000000000000

instance (n : Int) : Decidable (Number.InRange n) :=
  inferInstanceAs (Decidable (-0x8000000000000000 ≤ n ∧ n < 0x10000000000000000))

/-- A JSON number. -/
inductive Number where
  /-- A number written without a point and an exponent. -/
  | integer (n : Int) (inRange : Number.InRange n := by decide)
  /-- Any other number; JSON has none that is not finite. -/
  | float (x : Binary64) (isFinite : x.isFinite = true := by rfl)
  deriving DecidableEq, Repr

/-- A JSON value. -/
inductive Json where
  | null
  | bool (value : Bool)
  | number (value : Number)
  | text (value : String)
  | list (items : List Json)
  | object {first : Option String} (members : Ascending Json first)

/-- What kind of JSON value something is. -/
inductive Json.Kind where
  | null | bool | number | string | array | object
  deriving DecidableEq, Repr

/-- The name of a kind in messages. -/
def Json.Kind.name : Kind → String
  | .null => "null"
  | .bool => "bool"
  | .number => "number"
  | .string => "string"
  | .array => "array"
  | .object => "object"

namespace Number

/-- The double nearest to a number. -/
def toBinary64 : Number → Binary64
  | .integer n _ => .ofInt n
  | .float x _ => x

/-- The 64-bit integer that a number is; a number with a fraction part is none. -/
def int64? : Number → Option Int64
  | .integer n _ => Text.int64? n
  | .float .. => none

theorem inRange_toInt (n : Int64) : InRange n.toInt := by
  have hmin := n.le_toInt
  have hmax := n.toInt_lt
  unfold InRange
  omega

theorem inRange_natCast {n : Nat} (h : n < 0x10000000000000000) : InRange n := by
  unfold InRange
  omega

/-- A 64-bit integer as a number. -/
def ofInt64 (n : Int64) : Number := .integer n.toInt (inRange_toInt n)

theorem int64?_eq_some_iff {x : Number} {n : Int64} : x.int64? = some n ↔ x = ofInt64 n := by
  cases x with
  | integer i h => simp only [int64?, Text.int64?_eq_some_iff, ofInt64, integer.injEq]
  | float x h => simp [int64?, ofInt64]

@[simp] theorem int64?_ofInt64 (n : Int64) : (ofInt64 n).int64? = some n :=
  int64?_eq_some_iff.mpr rfl

@[simp] theorem ofInt64_inj {m n : Int64} : ofInt64 m = ofInt64 n ↔ m = n := by
  simp only [ofInt64, integer.injEq, Int64.toInt_inj]

/-- A 32-bit integer without a sign as a number. -/
def ofUInt32 (n : UInt32) : Number :=
  .integer n.toNat (inRange_natCast (Nat.lt_trans n.toNat_lt (by decide)))

end Number

namespace Json

/-- The kind of a value. -/
def kind : Json → Kind
  | .null => .null
  | .bool _ => .bool
  | .number _ => .number
  | .text _ => .string
  | .list _ => .array
  | .object _ => .object

/-- A 64-bit integer as a JSON value. -/
def ofInt64 (n : Int64) : Json := .number (.ofInt64 n)

/-- A double as a JSON value; JSON has no number for the values that are not finite. -/
def ofBinary64 (x : Binary64) : Json :=
  if h : x.isFinite = true then .number (.float x h) else .null

/-- A list of texts as a JSON value. -/
def ofTexts (texts : List String) : Json := .list (texts.map .text)

/-- The 64-bit integer that a value stands for: a number that is one, or a text that spells one. -/
def looseInt64? : Json → Option Int64
  | .number n => n.int64?
  | .text s => Text.readInt64? (Text.trim s.toList)
  | _ => none

/-- Null, blank texts and empty lists count as no value. -/
def isBlank : Json → Bool
  | .null => true
  | .text s => Text.allBlank s
  | .list items => items.isEmpty
  | _ => false

@[simp] theorem looseInt64?_ofInt64 (n : Int64) : (ofInt64 n).looseInt64? = some n :=
  Number.int64?_ofInt64 n

end Json

/-- A record gives its fields JSON values by name. -/
abbrev Record := Dictionary Json

namespace Record

/-- A record as a JSON value. -/
def toJson (r : Record) : Json := .object r.ascending

/-- The integer a field stands for. -/
def int64? (r : Record) (field : String) : Option Int64 :=
  (r.get? field).bind Json.looseInt64?

end Record

/-- An absent value is blank as well. -/
def isBlankValue (value : Option Json) : Bool := value.all Json.isBlank

end EntityForms
