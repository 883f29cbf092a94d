/-!
# Double-precision numbers

A number with a fraction is an IEEE 754 double. The program never calculates with one: it reads
doubles from decimal text and from integers, compares them with bounds and writes them. All of that
is done exactly, so a double is kept as its parts.

Every finite double is a whole multiple of 2⁻¹⁰⁷⁴, the distance between the two smallest ones. That
unit makes comparison a comparison of integers: `magnitude` counts units, and `Binary64.lt` says
what IEEE 754 says, with the two zeros equal and nothing comparable with `nan`.
-/

namespace EntityForms

namespace Binary64

/-- The unit is 2 to the power of minus this number. -/
def unitExponent : Nat := 1074

/-- The largest scale of a finite double. -/
def maxScale : Nat := 2045

/-- The significand and the scale of a finite double. The significand has 53 bits, and the first of
them is set unless the scale is the smallest one. -/
structure IsCanonical (significand scale : Nat) : Prop where
  lt : significand < 1 <<< 53
  le_maxScale : scale ≤ maxScale
  normal : scale = 0 ∨ 1 <<< 52 ≤ significand

instance (significand scale : Nat) : Decidable (IsCanonical significand scale) :=
  decidable_of_iff
    (significand < 1 <<< 53 ∧ scale ≤ maxScale ∧ (scale = 0 ∨ 1 <<< 52 ≤ significand))
    ⟨fun ⟨hlt, hle, hnormal⟩ ↦ ⟨hlt, hle, hnormal⟩, fun ⟨hlt, hle, hnormal⟩ ↦ ⟨hlt, hle, hnormal⟩⟩

end Binary64

/-- A double; `finite negative significand scale` is ± significand · 2^scale units of 2⁻¹⁰⁷⁴. -/
inductive Binary64 where
  /-- A number. -/
  | finite (negative : Bool) (significand scale : Nat)
    (canonical : Binary64.IsCanonical significand scale := by decide)
  /-- Beyond all numbers, above or below. -/
  | infinite (negative : Bool)
  /-- Not a number. -/
  | nan
  deriving DecidableEq, Repr

namespace Binary64

/-- Zero with a sign. -/
def zero (negative : Bool) : Binary64 := .finite negative 0 0

/-- The number of units, with its sign. -/
def units (negative : Bool) (significand scale : Nat) : Int :=
  if negative then -((significand <<< scale : Nat) : Int) else ((significand <<< scale : Nat) : Int)

/-- A number, neither infinite nor `nan`. -/
def isFinite : Binary64 → Bool
  | .finite .. => true
  | _ => false

/-- Strictly less in the sense of IEEE 754. -/
def lt : Binary64 → Binary64 → Bool
  | .nan, _ => false
  | _, .nan => false
  | .infinite a, .infinite b => a && !b
  | .infinite a, .finite .. => a
  | .finite .., .infinite b => !b
  | .finite a m e _, .finite b n f _ => units a m e < units b n f

instance : LT Binary64 := ⟨fun x y ↦ lt x y = true⟩

instance (x y : Binary64) : Decidable (x < y) := inferInstanceAs (Decidable (lt x y = true))

theorem lt_iff {x y : Binary64} : x < y ↔ lt x y = true := Iff.rfl

@[simp] theorem not_nan_lt (x : Binary64) : ¬ nan < x := by
  simp [lt_iff, lt]

@[simp] theorem not_lt_nan (x : Binary64) : ¬ x < nan := by
  cases x <;> simp [lt_iff, lt]

theorem finite_lt_finite {a b : Bool} {m n e f : Nat} {hm : IsCanonical m e}
    {hn : IsCanonical n f} : finite a m e hm < finite b n f hn ↔ units a m e < units b n f := by
  simp [lt_iff, lt]

end Binary64

end EntityForms
