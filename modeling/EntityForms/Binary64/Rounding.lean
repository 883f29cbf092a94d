import EntityForms.Binary64.Basic

/-!
# Rounding to a double

A positive ratio becomes the nearest double: the grid of doubles around it is found from the size
of the whole part, and one division is rounded to that grid, a tie going to the even neighbour. A
value that rounds beyond the largest scale is infinite. Integers and decimals are ratios.
-/

namespace EntityForms

/-- Where a value halfway between two neighbours goes. -/
inductive Tie where
  /-- To the even neighbour. -/
  | even
  /-- To the larger neighbour. -/
  | up
  deriving DecidableEq, Repr

/-- The whole number nearest to `n / d`. -/
def roundDiv (tie : Tie) (n d : Nat) : Nat :=
  let q := n / d
  let r := n % d
  if 2 * r < d then q
  else if d < 2 * r then q + 1
  else match tie with
    | .even => q + q % 2
    | .up => q + 1

theorem le_roundDiv (tie : Tie) (n d : Nat) : n / d ≤ roundDiv tie n d := by
  simp only [roundDiv]
  split
  · exact Nat.le_refl _
  · split
    · exact Nat.le_succ _
    · cases tie with
      | even => exact Nat.le_add_right _ _
      | up => exact Nat.le_succ _

theorem roundDiv_le (tie : Tie) (n d : Nat) : roundDiv tie n d ≤ n / d + 1 := by
  simp only [roundDiv]
  split
  · exact Nat.le_succ _
  · split
    · exact Nat.le_refl _
    · cases tie with
      | even => exact Nat.add_le_add_left (Nat.le_of_lt_succ (Nat.mod_lt _ Nat.two_pos)) _
      | up => exact Nat.le_refl _

/-- The number of decimal digits of `n`; zero has one. -/
def digitCount (n : Nat) : Nat := (Nat.toDigits 10 n).length

namespace Binary64

/-- The scale of the doubles around `n / d` units. -/
def gridScale (n d : Nat) : Nat := (n / d).log2 - 52

/-- The nearest point of the grid of that scale. -/
def gridPoint (n d : Nat) : Nat := roundDiv .even n (d <<< gridScale n d)

theorem div_shiftLeft (n d k : Nat) : n / (d <<< k) = n / d / (1 <<< k) := by
  rw [Nat.div_div_eq_div_mul, Nat.shiftLeft_eq, Nat.one_shiftLeft]

theorem gridPoint_le (n d : Nat) : gridPoint n d ≤ 1 <<< 53 := by
  refine Nat.le_trans (roundDiv_le ..) ?_
  rw [div_shiftLeft, Nat.succ_le_iff, Nat.one_shiftLeft, Nat.one_shiftLeft,
    Nat.div_lt_iff_lt_mul (Nat.two_pow_pos _), ← Nat.pow_add]
  refine Nat.lt_of_lt_of_le Nat.lt_log2_self (Nat.pow_le_pow_right Nat.two_pos ?_)
  rw [gridScale]
  omega

theorem gridPoint_normal (n d : Nat) : gridScale n d = 0 ∨ 1 <<< 52 ≤ gridPoint n d := by
  by_cases hscale : gridScale n d = 0
  · exact .inl hscale
  · right
    have hlog : 52 + gridScale n d = (n / d).log2 := by
      rw [gridScale] at hscale ⊢
      omega
    have hquot : n / d ≠ 0 := fun h ↦ hscale (by rw [gridScale, h, Nat.log2_zero])
    refine Nat.le_trans ?_ (le_roundDiv ..)
    rw [div_shiftLeft, Nat.one_shiftLeft, Nat.one_shiftLeft,
      Nat.le_div_iff_mul_le (Nat.two_pow_pos _), ← Nat.pow_add, hlog]
    exact Nat.log2_self_le hquot

/-- The double of these parts, which is infinite when the scale is too large. -/
def ofParts (negative : Bool) (significand scale : Nat) (hlt : significand < 1 <<< 53)
    (hnormal : scale = 0 ∨ 1 <<< 52 ≤ significand) : Binary64 :=
  if h : scale ≤ maxScale then .finite negative significand scale ⟨hlt, h, hnormal⟩
  else .infinite negative

/-- The double nearest to ± `n / d` units. -/
def ofUnits (negative : Bool) (n d : Nat) : Binary64 :=
  if h : gridPoint n d = 1 <<< 53 then
    ofParts negative (1 <<< 52) (gridScale n d + 1) (by decide) (.inr (Nat.le_refl _))
  else
    ofParts negative (gridPoint n d) (gridScale n d) (Nat.lt_of_le_of_ne (gridPoint_le n d) h)
      (gridPoint_normal n d)

/-- The double nearest to an integer. -/
def ofInt (n : Int) : Binary64 := ofUnits (n < 0) (n.natAbs <<< unitExponent) 1

/--
The double nearest to ± `coefficient` · 10^`exponent`. A decimal of more than 310 places before the
point is infinite and one that starts after more than 325 zeros is zero, so no large power is
formed for them.
-/
def ofDecimal (negative : Bool) (coefficient : Nat) (exponent : Int) : Binary64 :=
  let places := exponent + digitCount coefficient
  if coefficient = 0 ∨ places < -325 then .zero negative
  else if 310 < places then .infinite negative
  else ofUnits negative ((coefficient * Nat.pow 10 exponent.toNat) <<< unitExponent)
    (Nat.pow 10 (-exponent).toNat)

end Binary64

end EntityForms
