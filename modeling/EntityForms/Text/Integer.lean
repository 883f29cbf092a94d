/-!
# Integers in text

An integer is an optional sign and at least one ASCII digit; leading zeros are allowed and nothing
else is. A 64-bit integer is one whose value fits the range.
-/

namespace EntityForms.Text

/-- The value of a digit string, most significant digit first. -/
def digitsValue (ds : List Char) : Nat := Nat.ofDigitChars 10 ds 0

/-- Take an optional sign off the front; `true` stands for a minus. -/
def takeSign : List Char → Bool × List Char
  | '+' :: cs => (false, cs)
  | '-' :: cs => (true, cs)
  | cs => (false, cs)

/-- A digit string that is not empty. -/
def readDigits? (cs : List Char) : Option Nat :=
  if !cs.isEmpty && cs.all Char.isDigit then some (digitsValue cs) else none

/-- The integer a text spells. -/
def readInt? (cs : List Char) : Option Int :=
  let (negative, digits) := takeSign cs
  (readDigits? digits).map fun n ↦ if negative then -(n : Int) else n

/-- The 64-bit integer equal to `n`. -/
def int64? (n : Int) : Option Int64 :=
  if h : Int64.minValue.toInt ≤ n ∧ n ≤ Int64.maxValue.toInt then
    some (Int64.ofIntLE n h.1 h.2)
  else none

/-- The 64-bit integer that the characters spell. -/
def readInt64? (cs : List Char) : Option Int64 := (readInt? cs).bind int64?

/-- The decimal digits of a natural number. -/
def writeNat (n : Nat) : String := String.ofList (Nat.toDigits 10 n)

/-- An integer in decimal, with a sign only when it is negative. -/
def writeInt : Int → String
  | .ofNat n => writeNat n
  | .negSucc n => "-" ++ writeNat (n + 1)

theorem takeSign_of_not_mem {body : List Char} (hplus : '+' ∉ body) (hminus : '-' ∉ body) :
    takeSign body = (false, body) := by
  fun_cases takeSign body with
  | case1 cs => exact absurd List.mem_cons_self hplus
  | case2 cs => exact absurd List.mem_cons_self hminus
  | case3 => rfl

theorem int64?_toInt (n : Int64) : int64? n.toInt = some n := by
  rw [int64?, dif_pos ⟨n.minValue_le_toInt, n.toInt_le⟩, Int64.ofIntLE_toInt]

theorem int64?_eq_some_iff {n : Int} {k : Int64} : int64? n = some k ↔ n = k.toInt := by
  constructor
  · intro h
    unfold int64? at h
    split at h
    case isTrue => rw [← Option.some.inj h, Int64.toInt_ofIntLE]
    case isFalse => cases h
  · rintro rfl
    exact int64?_toInt k

end EntityForms.Text
