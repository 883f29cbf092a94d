import EntityForms.Binary64.Rounding
import Mathlib.Algebra.Group.Nat.Defs

/-!
# Integers among the doubles

A bound on a number is a double, and an integer is compared with it after it was rounded to a double
itself. Rounding does not blur the comparison where the bound is a whole number below 2⁵³. An
integer below 2⁵³ is a double, so it is rounded to itself; a larger one is rounded to no less than
2⁵³, since a power of two that it reaches is a double too.
-/

namespace EntityForms

/-! ## Division -/

theorem roundDiv_of_dvd (tie : Tie) {n d : Nat} (hd : 0 < d) (h : d ∣ n) :
    roundDiv tie n d = n / d := by
  simp only [roundDiv, Nat.mod_eq_zero_of_dvd h, Nat.mul_zero, if_pos hd]

namespace Binary64

/-! ## Rounding of units -/

/-- The number of units of the double nearest to `n` units. -/
def roundedUnits (n : Nat) : Nat :=
  roundDiv .even n (1 <<< (n.log2 - 52)) <<< (n.log2 - 52)

theorem roundedUnits_of_dvd {n : Nat} (h : 2 ^ (n.log2 - 52) ∣ n) : roundedUnits n = n := by
  rw [roundedUnits, Nat.one_shiftLeft, roundDiv_of_dvd .even (Nat.two_pow_pos _) h,
    Nat.shiftLeft_eq, Nat.div_mul_cancel h]

theorem two_pow_log2_le_roundedUnits {n : Nat} (hn : n ≠ 0) : 2 ^ n.log2 ≤ roundedUnits n := by
  have hscale : n.log2 - 52 ≤ n.log2 := Nat.sub_le _ _
  have hquot : 2 ^ (n.log2 - (n.log2 - 52)) ≤ n / 2 ^ (n.log2 - 52) := by
    rw [Nat.le_div_iff_mul_le (Nat.two_pow_pos _), Nat.pow_sub_mul_pow 2 hscale]
    exact Nat.log2_self_le hn
  rw [roundedUnits, Nat.one_shiftLeft, Nat.shiftLeft_eq]
  calc 2 ^ n.log2
      = 2 ^ (n.log2 - (n.log2 - 52)) * 2 ^ (n.log2 - 52) := (Nat.pow_sub_mul_pow 2 hscale).symm
    _ ≤ roundDiv .even n (2 ^ (n.log2 - 52)) * 2 ^ (n.log2 - 52) :=
        Nat.mul_le_mul_right _ (Nat.le_trans hquot (le_roundDiv .even _ _))

theorem ofParts_eq_or (negative : Bool) {m e : Nat} (hlt : m < 1 <<< 53)
    (hnormal : e = 0 ∨ 1 <<< 52 ≤ m) :
    (ofParts negative m e hlt hnormal = .infinite negative ∧ maxScale < e) ∨
      ∃ h, ofParts negative m e hlt hnormal = .finite negative m e h := by
  by_cases h : e ≤ maxScale
  · exact .inr ⟨⟨hlt, h, hnormal⟩, dif_pos h⟩
  · exact .inl ⟨dif_neg h, Nat.lt_of_not_le h⟩

/-- A number of units becomes a double of as many rounded units, unless it is beyond all doubles. -/
theorem ofUnits_eq_or (negative : Bool) (n : Nat) :
    (ofUnits negative n 1 = .infinite negative ∧ maxScale ≤ n.log2 - 52) ∨
      ∃ m e h, ofUnits negative n 1 = .finite negative m e h ∧ m <<< e = roundedUnits n := by
  have hunits : gridPoint n 1 <<< gridScale n 1 = roundedUnits n := by
    simp only [gridPoint, gridScale, roundedUnits, Nat.div_one]
  have hscale : gridScale n 1 = n.log2 - 52 := by rw [gridScale, Nat.div_one]
  rw [ofUnits, ← hscale, ← hunits]
  split
  case isTrue hcarry =>
    rcases ofParts_eq_or negative (m := 1 <<< 52) (e := gridScale n 1 + 1) (by decide)
      (.inr (Nat.le_refl _)) with ⟨hinfinite, hmax⟩ | ⟨h, hfinite⟩
    · exact .inl ⟨hinfinite, Nat.le_of_lt_succ hmax⟩
    · refine .inr ⟨_, _, h, hfinite, ?_⟩
      rw [hcarry, ← Nat.shiftLeft_add, ← Nat.shiftLeft_add]
      congr 1
      omega
  case isFalse hcarry =>
    rcases ofParts_eq_or negative (Nat.lt_of_le_of_ne (gridPoint_le n 1) hcarry)
      (gridPoint_normal n 1) with ⟨hinfinite, hmax⟩ | ⟨h, hfinite⟩
    · exact .inl ⟨hinfinite, Nat.le_of_lt hmax⟩
    · exact .inr ⟨_, _, h, hfinite, rfl⟩

/-! ## Integers -/

theorem log2_shiftLeft_lt {k p : Nat} (hk : k < 2 ^ p) :
    (k <<< unitExponent).log2 < p + unitExponent := by
  by_cases hzero : k <<< unitExponent = 0
  · rw [hzero, Nat.log2_zero]
    exact Nat.lt_add_left _ (by decide)
  · rw [Nat.log2_lt hzero, Nat.shiftLeft_eq, Nat.pow_add]
    exact Nat.mul_lt_mul_of_pos_right hk (Nat.two_pow_pos _)

theorem scale_le_of_lt {k : Nat} (hk : k < 2 ^ 53) :
    (k <<< unitExponent).log2 - 52 ≤ unitExponent := by
  have hlog := log2_shiftLeft_lt hk
  omega

theorem ofInt_of_lt {n : Int} (hn : n.natAbs < 2 ^ 53) :
    ∃ m e h, ofInt n = .finite (n < 0) m e h ∧ m <<< e = n.natAbs <<< unitExponent := by
  have hscale := scale_le_of_lt hn
  have hexact : roundedUnits (n.natAbs <<< unitExponent) = n.natAbs <<< unitExponent := by
    refine roundedUnits_of_dvd (Nat.dvd_trans (Nat.pow_dvd_pow 2 hscale) ?_)
    rw [Nat.shiftLeft_eq]
    exact Nat.dvd_mul_left _ _
  rcases ofUnits_eq_or (n < 0) (n.natAbs <<< unitExponent) with
    ⟨-, hmax⟩ | ⟨m, e, h, hfinite, hunits⟩
  · exact absurd (Nat.le_trans hmax hscale) (by decide)
  · exact ⟨m, e, h, hfinite, hunits.trans hexact⟩

theorem ofInt_of_le {n : Int} (hn : 2 ^ 53 ≤ n.natAbs) :
    ofInt n = .infinite (n < 0) ∨
      ∃ m e h, ofInt n = .finite (n < 0) m e h ∧ 2 ^ 53 <<< unitExponent ≤ m <<< e := by
  rcases ofUnits_eq_or (n < 0) (n.natAbs <<< unitExponent) with
    ⟨hinfinite, -⟩ | ⟨m, e, h, hfinite, hunits⟩
  · exact .inl hinfinite
  · refine .inr ⟨m, e, h, hfinite, ?_⟩
    have hle : 2 ^ (53 + unitExponent) ≤ n.natAbs <<< unitExponent := by
      rw [Nat.pow_add, Nat.shiftLeft_eq]
      exact Nat.mul_le_mul_right _ hn
    have hzero : n.natAbs <<< unitExponent ≠ 0 :=
      Nat.ne_of_gt (Nat.lt_of_lt_of_le (Nat.two_pow_pos _) hle)
    rw [hunits, Nat.shiftLeft_eq, ← Nat.pow_add]
    exact Nat.le_trans (Nat.pow_le_pow_right Nat.two_pos ((Nat.le_log2 hzero).mpr hle))
      (two_pow_log2_le_roundedUnits hzero)

theorem units_eq_mul {n : Int} {m e : Nat} (h : m <<< e = n.natAbs <<< unitExponent) :
    units (n < 0) m e = n * ((1 <<< unitExponent : Nat) : Int) := by
  rw [units, h, Nat.shiftLeft_eq, Nat.one_shiftLeft, Int.natCast_mul]
  generalize ((2 ^ unitExponent : Nat) : Int) = one
  by_cases hn : n < 0
  · rw [if_pos (by simpa using hn), ← Int.neg_mul]
    congr 1
    omega
  · rw [if_neg (by simpa using hn)]
    congr 1
    omega

/-- An integer from 2⁵³ on is on the same side of all bounds below 2⁵³, and so is its double. -/
theorem ofInt_lt_of_le {n bound : Int} (hn : 2 ^ 53 ≤ n.natAbs) (hbound : bound.natAbs < 2 ^ 53) :
    (ofInt n < ofInt bound ↔ n < 0) ∧ (ofInt bound < ofInt n ↔ 0 ≤ n) := by
  obtain ⟨m, e, _, hb, hunits⟩ := ofInt_of_lt hbound
  rw [hb, ← Int.not_lt]
  rcases ofInt_of_le hn with hinfinite | ⟨m', e', _, hfinite, hle⟩
  · rw [hinfinite]
    simp [lt_iff, lt]
  · rw [hfinite, finite_lt_finite, finite_lt_finite, units_eq_mul hunits]
    rw [Nat.shiftLeft_eq] at hle
    have hbeyond : ∀ b : Int, b.natAbs < 2 ^ 53 →
        b * ((1 <<< unitExponent : Nat) : Int) < ((m' <<< e' : Nat) : Int) := by
      intro b hb
      refine Int.lt_of_lt_of_le ?_ (Int.ofNat_le.mpr hle)
      rw [Nat.one_shiftLeft, Int.natCast_mul]
      exact Int.mul_lt_mul_of_pos_right (by omega) (Int.natCast_pos.mpr (Nat.two_pow_pos _))
    have habove := hbeyond bound hbound
    have hbelow := hbeyond (-bound) (by omega)
    rw [Int.neg_mul] at hbelow
    rw [units]
    by_cases hneg : n < 0
    · rw [if_pos (by simpa using hneg)]
      omega
    · rw [if_neg (by simpa using hneg)]
      omega

/-- An integer is below a bound of less than 2⁵³ exactly when its double is. -/
theorem ofInt_lt_ofInt_iff {n bound : Int} (hbound : bound.natAbs < 2 ^ 53) :
    (ofInt n < ofInt bound ↔ n < bound) ∧ (ofInt bound < ofInt n ↔ bound < n) := by
  by_cases hn : n.natAbs < 2 ^ 53
  · obtain ⟨m, e, _, hb, hunits⟩ := ofInt_of_lt hbound
    obtain ⟨m', e', _, hn', hunits'⟩ := ofInt_of_lt hn
    have hpos : (0 : Int) < ((1 <<< unitExponent : Nat) : Int) :=
      Int.natCast_pos.mpr (Nat.one_shiftLeft _ ▸ Nat.two_pow_pos _)
    rw [hb, hn', finite_lt_finite, finite_lt_finite, units_eq_mul hunits, units_eq_mul hunits']
    exact ⟨Int.mul_lt_mul_right hpos, Int.mul_lt_mul_right hpos⟩
  · obtain ⟨hlt, hgt⟩ := ofInt_lt_of_le (Nat.le_of_not_lt hn) hbound
    rw [hlt, hgt]
    omega

end Binary64

end EntityForms
