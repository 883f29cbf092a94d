import EntityForms.Binary64.Text
import EntityForms.Proofs.Binary64.Integers
import Mathlib.Data.List.TakeWhile
import Mathlib.Data.Nat.Digits.Defs

/-!
# Text that is read as a double

Three words stand for doubles that are no numbers: `nan`, `inf` and `infinity`, in any case and with
or without a sign (`Text.IsWord`). Nothing but the first is read as `nan`. A decimal is read as a
number unless it is beyond all of them; a text that spells a 64-bit integer never is.
-/

namespace EntityForms

/-! ## Words -/

namespace Text

variable {w cs body : List Char}

/-- The signs that may stand before a number or a word. -/
def signs : List (List Char) := [[], ['+'], ['-']]

/-- A text is a word in any case, with or without a sign before it. -/
def IsWord (w cs : List Char) : Prop :=
  ∃ sign ∈ signs, ∃ body, cs = sign ++ body ∧ body.map Char.toLower = w

theorem exists_sign (cs : List Char) : ∃ sign ∈ signs, cs = sign ++ (takeSign cs).2 := by
  fun_cases takeSign cs with
  | case1 cs => exact ⟨['+'], by decide, rfl⟩
  | case2 cs => exact ⟨['-'], by decide, rfl⟩
  | case3 => exact ⟨[], by decide, rfl⟩

/-- A word without a sign of its own is what is left when the sign before it is taken off. -/
theorem isWord_iff (hplus : '+' ∉ w) (hminus : '-' ∉ w) :
    IsWord w cs ↔ (takeSign cs).2.map Char.toLower = w := by
  constructor
  · rintro ⟨sign, hsign, body, rfl, rfl⟩
    have hbody : takeSign body = (false, body) :=
      takeSign_of_not_mem (fun h ↦ hplus (List.mem_map.mpr ⟨_, h, rfl⟩))
        fun h ↦ hminus (List.mem_map.mpr ⟨_, h, rfl⟩)
    simp only [signs, List.mem_cons, List.not_mem_nil, or_false] at hsign
    rcases hsign with rfl | rfl | rfl
    · rw [List.nil_append, hbody]
    · rfl
    · rfl
  · intro h
    obtain ⟨sign, hsign, hcs⟩ := exists_sign cs
    exact ⟨sign, hsign, _, hcs, h⟩

/-! ## Digits -/

theorem toLower_of_isDigit {c : Char} (h : c.isDigit = true) : c.toLower = c := by
  have hupper : ¬(c.val ≥ 'A'.val ∧ c.val ≤ 'Z'.val) := by grind [Char.isDigit]
  exact dif_neg hupper

theorem not_isWord_of_digits (hdigits : ∀ c ∈ (takeSign cs).2, c.isDigit = true) {c : Char}
    (hc : c ∈ w) (hletter : c.isDigit = false) (hplus : '+' ∉ w) (hminus : '-' ∉ w) :
    ¬IsWord w cs := by
  rw [isWord_iff hplus hminus, List.map_congr_left fun c hc ↦ toLower_of_isDigit (hdigits c hc),
    List.map_id']
  rintro rfl
  rw [hdigits c hc] at hletter
  cases hletter

/-- A text that spells a 64-bit integer consists of digits after its sign, and they spell no more
than such an integer can be. -/
theorem digits_of_readInt64? {n : Int64} (h : readInt64? cs = some n) :
    (takeSign cs).2 ≠ [] ∧ (∀ c ∈ (takeSign cs).2, c.isDigit = true) ∧
      digitsValue (takeSign cs).2 < 2 ^ 64 := by
  obtain ⟨k, hk, hn⟩ := Option.bind_eq_some_iff.mp h
  simp only [readInt?, readDigits?, Option.map_eq_some_iff, Option.bind_eq_bind,
    Option.bind_eq_some_iff, Option.ite_none_right_eq_some, Option.pure_def,
    Option.some.injEq] at hk
  obtain ⟨_, ⟨_, ⟨hform, rfl⟩, rfl⟩, hsigned⟩ := hk
  simp only [Bool.and_eq_true, Bool.not_eq_true', List.isEmpty_eq_false_iff, List.all_eq_true]
    at hform
  refine ⟨hform.1, hform.2, ?_⟩
  -- with a minus the lower end of the range bounds the digits, without one the upper end
  have hmin := n.le_toInt
  have hmax := n.toInt_lt
  rw [← int64?_eq_some_iff.mp hn, ← hsigned] at hmin hmax
  split at hmin
  case isTrue => omega
  case isFalse hpositive =>
    rw [if_neg hpositive] at hmax
    omega

end Text

namespace Binary64

variable {cs : List Char}

/-! ## Decimals -/

theorem ofUnits_ne_nan (negative : Bool) (n d : Nat) : ofUnits negative n d ≠ .nan := by
  simp only [ofUnits, ofParts]
  split <;> split <;> simp

theorem ofDecimal_ne_nan (negative : Bool) (coefficient : Nat) (exponent : Int) :
    ofDecimal negative coefficient exponent ≠ .nan := by
  simp only [ofDecimal, zero]
  split
  · simp
  · split
    · simp
    · exact ofUnits_ne_nan _ _ _

theorem exists_decimal_of_readMagnitude? {negative : Bool} {x : Binary64}
    (h : readMagnitude? negative cs = some x) :
    ∃ coefficient exponent, x = ofDecimal negative coefficient exponent := by
  simp only [readMagnitude?, Option.ite_none_left_eq_some, Option.map_eq_some_iff] at h
  obtain ⟨-, e, -, rfl⟩ := h
  exact ⟨_, _, rfl⟩

/-- A text is read as an infinity or as `nan` by its word, and as a decimal where it is neither. -/
theorem read?_eq (cs : List Char) :
    (Text.IsWord "inf".toList cs ∨ Text.IsWord "infinity".toList cs →
      read? cs = some (.infinite (Text.takeSign cs).1)) ∧
    (Text.IsWord "nan".toList cs → read? cs = some .nan) ∧
    (¬Text.IsWord "inf".toList cs → ¬Text.IsWord "infinity".toList cs →
      ¬Text.IsWord "nan".toList cs →
      read? cs = readMagnitude? (Text.takeSign cs).1 (Text.takeSign cs).2) := by
  have hword : ∀ w : String, String.ofList ((Text.takeSign cs).2.map Char.toLower) = w ↔
      (Text.takeSign cs).2.map Char.toLower = w.toList := by
    intro w
    rw [← String.toList_inj, String.toList_ofList]
  rw [Text.isWord_iff (by decide) (by decide), Text.isWord_iff (by decide) (by decide),
    Text.isWord_iff (by decide) (by decide)]
  simp only [read?, hword]
  refine ⟨?_, ?_, ?_⟩
  · intro h
    rw [if_pos h]
  · intro h
    rw [h, if_neg (by decide), if_pos rfl]
  · intro hinf hinfinity hnan
    rw [if_neg (not_or_intro hinf hinfinity), if_neg hnan]

theorem read?_eq_nan_iff : read? cs = some .nan ↔ Text.IsWord "nan".toList cs := by
  obtain ⟨hinfinite, hnan, hdecimal⟩ := read?_eq cs
  refine ⟨?_, hnan⟩
  intro h
  by_contra hword
  by_cases hinf : Text.IsWord "inf".toList cs ∨ Text.IsWord "infinity".toList cs
  · cases h.symm.trans (hinfinite hinf)
  · obtain ⟨hinf, hinfinity⟩ := not_or.mp hinf
    obtain ⟨c, e, he⟩ :=
      exists_decimal_of_readMagnitude? ((hdecimal hinf hinfinity hword).symm.trans h)
    exact ofDecimal_ne_nan _ _ _ he.symm

theorem isFinite_ofDecimal (negative : Bool) {coefficient : Nat} (h : coefficient < 2 ^ 64) :
    (ofDecimal negative coefficient 0).isFinite = true := by
  have hcount : digitCount coefficient ≤ 20 :=
    (Nat.length_toDigits_le_iff (by decide) (by decide)).mpr (h.trans (by decide))
  simp only [ofDecimal]
  split
  case isTrue => rfl
  case isFalse =>
    have hone : coefficient * Nat.pow 10 (0 : Int).toNat = coefficient := Nat.mul_one _
    rw [if_neg (by omega), hone]
    rcases ofUnits_eq_or negative (coefficient <<< unitExponent) with
      ⟨-, hscale⟩ | ⟨m, e, _, hfinite, -⟩
    · -- the scale of 64 bits is below the largest one
      have hlog := log2_shiftLeft_lt h
      have hlarge : 64 + unitExponent < maxScale := by decide
      omega
    · exact (congrArg isFinite hfinite).trans rfl

theorem readMagnitude?_of_digits (negative : Bool) (hsome : cs ≠ [])
    (hdigits : ∀ c ∈ cs, c.isDigit = true) :
    readMagnitude? negative cs = some (ofDecimal negative (Text.digitsValue cs) 0) := by
  simp [readMagnitude?, List.takeWhile_eq_self_iff.mpr hdigits,
    List.dropWhile_eq_nil_iff.mpr hdigits, hsome, readExponent?]

theorem exists_finite_of_readInt64? {n : Int64} (h : Text.readInt64? cs = some n) :
    ∃ x, read? cs = some x ∧ x.isFinite = true := by
  obtain ⟨hsome, hdigits, hvalue⟩ := Text.digits_of_readInt64? h
  have hinf : ¬Text.IsWord "inf".toList cs :=
    Text.not_isWord_of_digits hdigits (c := 'i') (by decide) (by decide) (by decide) (by decide)
  have hinfinity : ¬Text.IsWord "infinity".toList cs :=
    Text.not_isWord_of_digits hdigits (c := 'i') (by decide) (by decide) (by decide) (by decide)
  have hnan : ¬Text.IsWord "nan".toList cs :=
    Text.not_isWord_of_digits hdigits (c := 'n') (by decide) (by decide) (by decide) (by decide)
  -- so the digits are read as a decimal, and 64 bits are not beyond all doubles
  have hread := (read?_eq cs).2.2 hinf hinfinity hnan
  rw [readMagnitude?_of_digits _ hsome hdigits] at hread
  exact ⟨_, hread, isFinite_ofDecimal _ hvalue⟩

end Binary64

end EntityForms
