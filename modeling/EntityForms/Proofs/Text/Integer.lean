import EntityForms.Text.Integer

/-!
# Integers that are written and read

An integer is written as its digits, after a minus where it is negative, and so in the one way that
the reader takes for this integer (`readInt?_writeInt`). Hence no two integers are written alike
(`writeInt_toInt_inj`). A text that holds an integer holds nothing but digits and a minus.
-/

namespace EntityForms.Text

/-! ## What is written -/

theorem writeNat_ne_nil (n : Nat) : (writeNat n).toList ≠ [] := by
  rw [writeNat, String.toList_ofList]
  exact Nat.toDigits_ne_nil

theorem isDigit_of_mem_writeNat {n : Nat} {c : Char} (h : c ∈ (writeNat n).toList) :
    c.isDigit = true := by
  rw [writeNat, String.toList_ofList] at h
  exact Nat.isDigit_of_mem_toDigits (by decide) (by decide) h

theorem toList_writeInt_negSucc (n : Nat) :
    (writeInt (.negSucc n)).toList = '-' :: (writeNat (n + 1)).toList := by
  rw [writeInt, String.toList_append]
  rfl

theorem writeInt_ne_nil (k : Int) : (writeInt k).toList ≠ [] := by
  cases k with
  | ofNat n => exact writeNat_ne_nil n
  | negSucc n =>
    rw [toList_writeInt_negSucc]
    exact List.cons_ne_nil _ _

theorem eq_minus_or_isDigit_of_mem_writeInt {k : Int} {c : Char} (h : c ∈ (writeInt k).toList) :
    c = '-' ∨ c.isDigit = true := by
  cases k with
  | ofNat n => exact .inr (isDigit_of_mem_writeNat h)
  | negSucc n =>
    rw [toList_writeInt_negSucc, List.mem_cons] at h
    exact h.imp id isDigit_of_mem_writeNat

/-! ## What is read -/

theorem readDigits?_writeNat (n : Nat) : readDigits? (writeNat n).toList = some n := by
  have hdigits : (writeNat n).toList.all Char.isDigit = true :=
    List.all_eq_true.mpr fun c hc ↦ isDigit_of_mem_writeNat hc
  have hsome : (writeNat n).toList.isEmpty = false :=
    List.isEmpty_eq_false_iff.mpr (writeNat_ne_nil n)
  rw [readDigits?, hdigits, hsome, digitsValue, writeNat, String.toList_ofList,
    Nat.ofDigitChars_ten_toDigits]
  rfl

theorem readInt?_writeInt (k : Int) : readInt? (writeInt k).toList = some k := by
  cases k with
  | ofNat n =>
    -- no digit is a sign
    have hsign : takeSign (writeNat n).toList = (false, (writeNat n).toList) :=
      takeSign_of_not_mem (fun h ↦ absurd (isDigit_of_mem_writeNat h) (by decide))
        fun h ↦ absurd (isDigit_of_mem_writeNat h) (by decide)
    rw [writeInt, readInt?, hsign]
    simp [readDigits?_writeNat]
  | negSucc n =>
    rw [toList_writeInt_negSucc, readInt?, takeSign]
    simp [readDigits?_writeNat, Int.negSucc_eq]

theorem readInt64?_writeInt (k : Int64) : readInt64? (writeInt k.toInt).toList = some k := by
  rw [readInt64?, readInt?_writeInt, Option.bind_some, int64?_toInt]

theorem writeInt_toInt_inj {i j : Int64} : writeInt i.toInt = writeInt j.toInt ↔ i = j := by
  refine ⟨fun h ↦ ?_, fun h ↦ by rw [h]⟩
  have hread := readInt64?_writeInt i
  rw [h, readInt64?_writeInt j] at hread
  exact (Option.some.inj hread).symm

end EntityForms.Text
