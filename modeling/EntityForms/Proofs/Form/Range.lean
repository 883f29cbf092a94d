import EntityForms.Field.Validation
import EntityForms.Proofs.Binary64.Reading
import EntityForms.Proofs.Codec.Fields

/-!
# Bounds on the size of a number

A rule on the size of a number is checked by two questions, whether the number is below the lower
bound and whether it is above the upper one. For numbers that is the same as lying between the
bounds. But `nan` is neither below nor above anything, so it passes without lying between them. A
text is read as a double before it is compared with the bounds, and the word `nan` is read as that
one. So a text that passes spells a number between the bounds exactly when it is not this word
(`admitsText_of_check_iff`).
-/

namespace EntityForms

/-! ## Order of doubles -/

namespace Binary64

/-- Less or equal in the sense of IEEE 754. -/
def le : Binary64 → Binary64 → Bool
  | .nan, _ => false
  | _, .nan => false
  | .infinite a, .infinite b => a || !b
  | .infinite a, .finite .. => a
  | .finite .., .infinite b => !b
  | .finite a m e _, .finite b n f _ => units a m e ≤ units b n f

instance : LE Binary64 := ⟨fun x y ↦ le x y = true⟩

instance (x y : Binary64) : Decidable (x ≤ y) := inferInstanceAs (Decidable (le x y = true))

theorem le_iff {x y : Binary64} : x ≤ y ↔ x ≠ nan ∧ y ≠ nan ∧ ¬ y < x := by
  change le x y = true ↔ _
  cases x <;> cases y <;> grind [le, lt_iff, lt]

end Binary64

/-! ## Numbers that pass -/

namespace Rules

variable {rules : Rules} {x : Binary64} {s : String}

/-- A number lies between the bounds. -/
def Admits (rules : Rules) (x : Binary64) : Prop :=
  (∀ bound, rules.min = some bound → bound ≤ x) ∧ ∀ bound, rules.max = some bound → x ≤ bound

/-- A text spells a number that lies between the bounds. -/
def AdmitsText (rules : Rules) (s : String) : Prop :=
  ∃ x, Binary64.read? (Text.trim s.toList) = some x ∧ rules.Admits x

theorem checkNumber_eq_ok_iff :
    rules.checkNumber x = .ok () ↔
      (∀ bound, rules.min = some bound → ¬ x < bound) ∧
        ∀ bound, rules.max = some bound → ¬ bound < x := by
  have hmin : (rules.min.filter fun bound ↦ x < bound) = none ↔
      ∀ bound, rules.min = some bound → ¬ x < bound := by simp
  have hmax : (rules.max.filter fun bound ↦ bound < x) = none ↔
      ∀ bound, rules.max = some bound → ¬ bound < x := by simp
  rw [← hmin, ← hmax, checkNumber]
  cases rules.min.filter fun bound ↦ x < bound with
  | some bound => simp
  | none => cases rules.max.filter fun bound ↦ bound < x <;> simp

/-- What passes lies between the bounds, unless it is `nan`. -/
theorem checkNumber_eq_ok_iff_admits (hmin : rules.min ≠ some .nan) (hmax : rules.max ≠ some .nan)
    (hx : x ≠ .nan) : rules.checkNumber x = .ok () ↔ rules.Admits x := by
  rw [checkNumber_eq_ok_iff, Admits]
  apply and_congr
  · refine forall₂_congr fun bound hbound ↦ ?_
    have hnan : bound ≠ .nan := by
      rintro rfl
      exact hmin hbound
    rw [Binary64.le_iff, and_iff_right hnan, and_iff_right hx]
  · refine forall₂_congr fun bound hbound ↦ ?_
    have hnan : bound ≠ .nan := by
      rintro rfl
      exact hmax hbound
    rw [Binary64.le_iff, and_iff_right hx, and_iff_right hnan]

theorem checkNumber_nan (rules : Rules) : rules.checkNumber .nan = .ok () := by
  simp [checkNumber_eq_ok_iff]

theorem not_admits_nan (hrange : rules.hasRange = true) : ¬ rules.Admits .nan := by
  rintro ⟨hmin, hmax⟩
  rw [hasRange, Bool.or_eq_true, Option.isSome_iff_exists, Option.isSome_iff_exists] at hrange
  rcases hrange with ⟨bound, hbound⟩ | ⟨bound, hbound⟩
  · exact (Binary64.le_iff.mp (hmin bound hbound)).2.1 rfl
  · exact (Binary64.le_iff.mp (hmax bound hbound)).1 rfl

theorem le_of_checkNumber {a k : Int} {hk : Number.InRange k} (hmin : rules.min = some (.ofInt a))
    (ha : a.natAbs < 2 ^ 53)
    (h : rules.checkNumber (Number.integer k hk).toBinary64 = .ok ()) :
    a ≤ k := by
  have hbound := (checkNumber_eq_ok_iff.mp h).1 _ hmin
  rw [Number.toBinary64, (Binary64.ofInt_lt_ofInt_iff ha).1] at hbound
  exact Int.not_lt.mp hbound

theorem ge_of_checkNumber {a k : Int} {hk : Number.InRange k} (hmax : rules.max = some (.ofInt a))
    (ha : a.natAbs < 2 ^ 53)
    (h : rules.checkNumber (Number.integer k hk).toBinary64 = .ok ()) :
    k ≤ a := by
  have hbound := (checkNumber_eq_ok_iff.mp h).2 _ hmax
  rw [Number.toBinary64, (Binary64.ofInt_lt_ofInt_iff ha).2] at hbound
  exact Int.not_lt.mp hbound

/-! ## Texts that pass -/

theorem checkText_eq_ok_iff :
    rules.checkText s = .ok () ↔
      (rules.required && Text.allBlank s) = false ∧ rules.checkLength s.length = .ok () ∧
        (rules.hasRange = true →
          ∃ x, Binary64.read? (Text.trim s.toList) = some x ∧ rules.checkNumber x = .ok ()) := by
  rw [checkText]
  cases rules.required && Text.allBlank s with
  | true => simp
  | false =>
    rw [if_neg Bool.false_ne_true, Except.bind_eq_ok_iff, Unique.exists_iff]
    cases rules.hasRange with
    | false => simp [pure, Except.pure]
    | true => cases Binary64.read? (Text.trim s.toList) <;> simp

theorem check_text (hblank : Text.allBlank s = false) :
    rules.check (some (.text s)) = rules.checkText s := by
  rw [check, isBlankValue, Option.all_some, Json.isBlank, hblank, if_neg Bool.false_ne_true]

/-- The word `nan` is read as a double that no bound refuses and that lies between none. -/
theorem not_admitsText_of_isWord_nan (hrange : rules.hasRange = true)
    (h : Text.IsWord "nan".toList (Text.trim s.toList)) : ¬ rules.AdmitsText s := by
  rintro ⟨x, hx, hadmits⟩
  obtain rfl := Option.some.inj (hx.symm.trans (Binary64.read?_eq_nan_iff.mpr h))
  exact not_admits_nan hrange hadmits

/-- Under a bound on its size a text that is not blank passes when it has an allowed length and
spells a number between the bounds, and also when it is the word `nan`. So a text that passed spells
a number between the bounds exactly when it is not that word. -/
theorem admitsText_of_check_iff (hrange : rules.hasRange = true) (hmin : rules.min ≠ some .nan)
    (hmax : rules.max ≠ some .nan) (hblank : Text.allBlank s = false) :
    (rules.check (some (.text s)) = .ok () ↔ rules.checkLength s.length = .ok () ∧
      (rules.AdmitsText s ∨ Text.IsWord "nan".toList (Text.trim s.toList))) ∧
    (rules.check (some (.text s)) = .ok () →
      (rules.AdmitsText s ↔ ¬ Text.IsWord "nan".toList (Text.trim s.toList))) := by
  have hpasses : (∃ x, Binary64.read? (Text.trim s.toList) = some x ∧
      rules.checkNumber x = .ok ()) ↔
        rules.AdmitsText s ∨ Text.IsWord "nan".toList (Text.trim s.toList) := by
    rw [← Binary64.read?_eq_nan_iff]
    -- the double that is read passes because it lies between the bounds, or because it is `nan`
    constructor
    · rintro ⟨x, hx, hcheck⟩
      by_cases hnan : x = .nan
      · exact .inr (hnan ▸ hx)
      · exact .inl ⟨x, hx, (checkNumber_eq_ok_iff_admits hmin hmax hnan).mp hcheck⟩
    · rintro (⟨x, hx, hadmits⟩ | hnan)
      · have hx' : x ≠ .nan := by
          rintro rfl
          exact not_admits_nan hrange hadmits
        exact ⟨x, hx, (checkNumber_eq_ok_iff_admits hmin hmax hx').mpr hadmits⟩
      · exact ⟨.nan, hnan, rules.checkNumber_nan⟩
  have hcheck : rules.check (some (.text s)) = .ok () ↔ rules.checkLength s.length = .ok () ∧
      (rules.AdmitsText s ∨ Text.IsWord "nan".toList (Text.trim s.toList)) := by
    rw [check_text hblank, checkText_eq_ok_iff, hpasses, hblank, Bool.and_false]
    simp only [hrange, true_and, true_imp_iff]
  refine ⟨hcheck, ?_⟩
  intro h
  constructor
  · intro hadmits hnan
    exact not_admitsText_of_isWord_nan hrange hnan hadmits
  · exact (hcheck.mp h).2.resolve_right

/-- The rules of a port that has to be given. -/
def samplePort : Rules where
  required := true
  min := some (.ofInt 1)
  max := some (.ofInt 65535)

/-- A port with blanks around it passes and lies between the bounds. -/
theorem admitsText_of_samplePort :
    samplePort.hasRange = true ∧ samplePort.min ≠ some .nan ∧ samplePort.max ≠ some .nan ∧
      Text.allBlank " 8080 " = false ∧ samplePort.check (some (.text " 8080 ")) = .ok () ∧
      samplePort.AdmitsText " 8080 " := by
  have hrange : samplePort.hasRange = true := rfl
  have hmin : samplePort.min ≠ some .nan := by decide +kernel
  have hmax : samplePort.max ≠ some .nan := by decide +kernel
  have hblank : Text.allBlank " 8080 " = false := by decide +kernel
  have hcheck : samplePort.check (some (.text " 8080 ")) = .ok () := by decide +kernel
  have hword : ¬ Text.IsWord "nan".toList (Text.trim " 8080 ".toList) := by
    rw [Text.isWord_iff (by decide) (by decide)]
    decide +kernel
  exact ⟨hrange, hmin, hmax, hblank, hcheck,
    ((admitsText_of_check_iff hrange hmin hmax hblank).2 hcheck).mpr hword⟩

/-- The word passes under bounds that are numbers. -/
theorem nan_passes_samplePort :
    samplePort.hasRange = true ∧ (∀ bound, samplePort.min = some bound → bound.isFinite = true) ∧
      (∀ bound, samplePort.max = some bound → bound.isFinite = true) ∧
      Text.allBlank "nan" = false ∧ samplePort.check (some (.text "nan")) = .ok () ∧
      ¬ samplePort.AdmitsText "nan" := by
  have hread : Binary64.read? (Text.trim "nan".toList) = some .nan := by decide +kernel
  refine ⟨rfl, ?_, ?_, by decide, by decide +kernel, ?_⟩
  · intro bound hbound
    rw [← Option.some.inj hbound]
    decide +kernel
  · intro bound hbound
    rw [← Option.some.inj hbound]
    decide +kernel
  · exact not_admitsText_of_isWord_nan rfl (Binary64.read?_eq_nan_iff.mp hread)

end Rules

end EntityForms
