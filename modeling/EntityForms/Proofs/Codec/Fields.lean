import EntityForms.Codec

/-!
# What a conversion does to each field

Both conversions of a codec replace the transformed fields one after the other. Every transform
reads the record that was given, so the result can be told key by key: a transformed field has the
value that its *last* transform computes, and every other field keeps its own. A transform succeeds
only where its field is present, so a conversion that succeeds neither adds a key nor drops one.

The conversions are described through `Codec.replace`, of which both are instances; `get?_parse_*`
and `get?_stringify_*` are what the rest of the library uses.
-/

namespace EntityForms

/-! ## Results in sequence -/

section Except

variable {ε ε' α β : Type}

theorem Except.bind_eq_ok_iff {x : Except ε α} {f : α → Except ε β} {b : β} :
    (x >>= f) = .ok b ↔ ∃ a, x = .ok a ∧ f a = .ok b := by
  cases x <;> simp [bind, Except.bind]

theorem Except.map_eq_ok_iff {x : Except ε α} {f : α → β} {b : β} :
    x.map f = .ok b ↔ ∃ a, x = .ok a ∧ f a = b := by
  cases x <;> simp [Except.map]

@[simp] theorem Except.mapError_eq_ok_iff {x : Except ε α} {f : ε → ε'} {a : α} :
    x.mapError f = .ok a ↔ x = .ok a := by
  cases x with
  | ok a' =>
    change (.ok a' : Except ε' α) = .ok a ↔ _
    rw [Except.ok.injEq, Except.ok.injEq]
  | error e => exact ⟨nofun, nofun⟩

end Except

/-! ## Shapes -/

namespace ListShape

theorem contains_of_classify {r : Record} {field : String} {shape : ListShape}
    (h : classify r field = .ok shape) : r.contains field = true := by
  rw [Dictionary.contains_iff]
  cases hv : r.get? field with
  | some v => exact ⟨v, rfl⟩
  | none =>
    rw [classify, hv] at h
    cases h

theorem texts_eq_ok_iff {items : List Json} {names : List String} :
    texts items = .ok names ↔ items = names.map .text := by
  induction items generalizing names with
  | nil => cases names <;> simp [texts]
  | cons item items ih =>
    cases item with
    | text s =>
      rw [texts, Except.map_eq_ok_iff]
      constructor
      · rintro ⟨rest, hrest, rfl⟩
        rw [ih.mp hrest, List.map_cons]
      · intro h
        obtain ⟨name, rest, rfl, hname, hrest⟩ := List.map_eq_cons_iff.mp h.symm
        exact ⟨rest, ih.mpr hrest.symm, by rw [(Json.text.injEq _ _).mp hname]⟩
    | null | bool | number | list | object => cases names <;> simp [texts]

theorem ofValue_eq_wire_iff {field : String} {value : Option Json} {items : List String} :
    ofValue field value = .ok (.wire items) ↔ value = some (.ofTexts items) := by
  cases value with
  | none => simp [ofValue]
  | some v =>
    cases v with
    | list l =>
      rw [ofValue, Json.ofTexts, Option.some.injEq, Json.list.injEq, ← texts_eq_ok_iff]
      cases texts l <;> simp
    | null | bool | number | text | object => simp [ofValue, Json.ofTexts]

theorem ofValue_eq_ui_iff {field : String} {value : Option Json} {s : String} :
    ofValue field value = .ok (.ui s) ↔ value = some (.text s) := by
  cases value with
  | none => simp [ofValue]
  | some v =>
    cases v with
    | list l =>
      rw [ofValue]
      cases texts l <;> simp
    | null | bool | number | text | object => simp [ofValue]

end ListShape

namespace ListTransform

theorem classify_of_parseValue {t : ListTransform} {wire : Record} {v : Json}
    (h : t.parseValue wire = .ok v) :
    ∃ items, ListShape.classify wire t.field = .ok (.wire items) ∧
      v = .text (Text.joinNames t.delimiter items) := by
  obtain ⟨shape, hshape, hv⟩ := Except.bind_eq_ok_iff.mp h
  cases shape with
  | wire items => exact ⟨items, hshape, (Except.ok.inj hv).symm⟩
  | ui text => cases hv

theorem classify_of_stringifyValue {t : ListTransform} {ui : Record} {v : Json}
    (h : t.stringifyValue ui = .ok v) :
    ∃ shape, ListShape.classify ui t.field = .ok shape ∧
      v = .ofTexts (shape.toWire t.delimiter) := by
  obtain ⟨shape, hshape, hv⟩ := Except.bind_eq_ok_iff.mp h
  exact ⟨shape, hshape, (Except.ok.inj hv).symm⟩

theorem contains_of_parseValue {t : ListTransform} {wire : Record} {v : Json}
    (h : t.parseValue wire = .ok v) : wire.contains t.field = true := by
  obtain ⟨items, hshape, -⟩ := classify_of_parseValue h
  exact ListShape.contains_of_classify hshape

theorem contains_of_stringifyValue {t : ListTransform} {ui : Record} {v : Json}
    (h : t.stringifyValue ui = .ok v) : ui.contains t.field = true := by
  obtain ⟨shape, hshape, -⟩ := classify_of_stringifyValue h
  exact ListShape.contains_of_classify hshape

end ListTransform

/-! ## Replacing fields one after the other -/

/-- The last of several transforms for a field. -/
def ListTransform.lastFor? (field : String) (ts : List ListTransform) : Option ListTransform :=
  (ts.filter fun t ↦ t.field == field).getLast?

namespace ListTransform

theorem lastFor?_cons_self (t : ListTransform) (ts : List ListTransform) :
    lastFor? t.field (t :: ts) = some ((lastFor? t.field ts).getD t) := by
  rw [lastFor?, List.filter_cons_of_pos (by simp), List.getLast?_cons, ← lastFor?]

theorem lastFor?_cons_of_ne {t : ListTransform} {field : String} (h : t.field ≠ field)
    (ts : List ListTransform) : lastFor? field (t :: ts) = lastFor? field ts := by
  rw [lastFor?, List.filter_cons_of_neg (by simpa using h), ← lastFor?]

theorem mem_and_field_of_lastFor? {field : String} {ts : List ListTransform} {t : ListTransform}
    (h : lastFor? field ts = some t) : t ∈ ts ∧ t.field = field := by
  have hmem := List.mem_filter.mp (List.mem_of_getLast? h)
  exact ⟨hmem.1, by simpa using hmem.2⟩

theorem lastFor?_eq_none_iff {field : String} {ts : List ListTransform} :
    lastFor? field ts = none ↔ ∀ t ∈ ts, t.field ≠ field := by
  rw [lastFor?, List.getLast?_eq_none_iff, List.filter_eq_nil_iff]
  simp

end ListTransform

namespace Codec

section Replace

variable {value : ListTransform → Record → Except CodecError Json} {r out out' : Record}
  {ts : List ListTransform}

theorem get?_replace_of_none {key : String} (h : replace value r ts out = .ok out')
    (hkey : ListTransform.lastFor? key ts = none) : out'.get? key = out.get? key := by
  induction ts generalizing out with
  | nil => rw [← Except.ok.inj h]
  | cons t ts ih =>
    obtain ⟨v, -, hrest⟩ := Except.bind_eq_ok_iff.mp h
    have hne : t.field ≠ key := ListTransform.lastFor?_eq_none_iff.mp hkey t List.mem_cons_self
    rw [ListTransform.lastFor?_cons_of_ne hne] at hkey
    rw [ih hrest hkey, Dictionary.get?_insert_of_ne _ hne]

/-- A transformed field has the value that its last transform computes. -/
theorem get?_replace_of_some {key : String} {t : ListTransform}
    (h : replace value r ts out = .ok out') (hkey : ListTransform.lastFor? key ts = some t) :
    ∃ v, value t r = .ok v ∧ out'.get? key = some v := by
  induction ts generalizing out with
  | nil => cases hkey
  | cons t' ts ih =>
    obtain ⟨v, hv, hrest⟩ := Except.bind_eq_ok_iff.mp h
    by_cases hne : t'.field = key
    · subst hne
      rw [ListTransform.lastFor?_cons_self] at hkey
      -- a later transform of the same field overwrites this one, otherwise nothing does
      cases hlast : ListTransform.lastFor? t'.field ts with
      | some t₁ =>
        rw [hlast] at hkey
        exact ih hrest (hlast.trans hkey)
      | none =>
        rw [hlast] at hkey
        obtain rfl : t' = t := Option.some.inj hkey
        refine ⟨v, hv, ?_⟩
        rw [get?_replace_of_none hrest hlast, Dictionary.get?_insert_self]
    · rw [ListTransform.lastFor?_cons_of_ne hne] at hkey
      exact ih hrest hkey

/-- Where every transformed field is present, a conversion keeps the set of keys. -/
theorem contains_replace {key : String} (h : replace value r ts r = .ok out')
    (hvalue : ∀ t ∈ ts, ∀ v, value t r = .ok v → r.contains t.field = true) :
    out'.contains key = r.contains key := by
  cases hkey : ListTransform.lastFor? key ts with
  | none => rw [Dictionary.contains, get?_replace_of_none h hkey, ← Dictionary.contains]
  | some t =>
    obtain ⟨v, hv, hget⟩ := get?_replace_of_some h hkey
    obtain ⟨hmem, hfield⟩ := ListTransform.mem_and_field_of_lastFor? hkey
    rw [← hfield, hvalue t hmem v hv, hfield]
    exact Dictionary.contains_iff.mpr ⟨v, hget⟩

end Replace

/-! ## The two conversions -/

variable {c : Codec} {r r' : Record} {key : String}

/-- The transform that decides the value of a field: the last one declared for it. -/
def lastTransform? (c : Codec) (field : String) : Option ListTransform :=
  ListTransform.lastFor? field c.transforms

theorem get?_parse_of_none (h : c.parse r = .ok r') (hkey : c.lastTransform? key = none) :
    r'.get? key = r.get? key :=
  get?_replace_of_none h hkey

theorem get?_stringify_of_none (h : c.stringify r = .ok r') (hkey : c.lastTransform? key = none) :
    r'.get? key = r.get? key :=
  get?_replace_of_none h hkey

theorem get?_stringify_of_some {t : ListTransform} (h : c.stringify r = .ok r')
    (hkey : c.lastTransform? key = some t) :
    ∃ shape, ListShape.ofValue key (r.get? key) = .ok shape ∧
      r'.get? key = some (.ofTexts (shape.toWire t.delimiter)) := by
  obtain ⟨v, hv, hget⟩ := get?_replace_of_some h hkey
  obtain ⟨shape, hshape, rfl⟩ := ListTransform.classify_of_stringifyValue hv
  obtain ⟨-, rfl⟩ := ListTransform.mem_and_field_of_lastFor? hkey
  exact ⟨shape, hshape, hget⟩

theorem contains_parse (h : c.parse r = .ok r') : r'.contains key = r.contains key :=
  contains_replace h fun _ _ _ ↦ ListTransform.contains_of_parseValue

theorem contains_stringify (h : c.stringify r = .ok r') : r'.contains key = r.contains key :=
  contains_replace h fun _ _ _ ↦ ListTransform.contains_of_stringifyValue

end Codec

end EntityForms
