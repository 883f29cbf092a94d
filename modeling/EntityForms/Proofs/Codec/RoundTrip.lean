import EntityForms.Proofs.Codec.Fields
import EntityForms.Proofs.Text.Pieces

/-!
# From the wire to the form and back

A record that can be parsed can be written back, since parsing leaves a text at every transformed
field. What comes back differs from the record at the transformed fields only, where each item of
the list is replaced by the names in it: an item with a delimiter inside is taken apart, white space
around an item is dropped, and so is an item that has nothing else (`get?_stringify_parse`). Nothing
is changed exactly when all items are names (`stringify_parse`).

A field may be transformed more than once. Every transform has to be able to read the field, so all
of them matter for whether a conversion succeeds; what the field becomes is the work of the last.
-/

namespace EntityForms

theorem Json.ofTexts_inj {a b : List String} : Json.ofTexts a = Json.ofTexts b ↔ a = b := by
  rw [Json.ofTexts, Json.ofTexts, Json.list.injEq,
    List.map_inj_right fun _ _ ↦ (Json.text.injEq _ _).mp]

/-! ## Success -/

namespace Codec

theorem exists_replace {value : ListTransform → Record → Except CodecError Json} {r : Record}
    {ts : List ListTransform} (h : ∀ t ∈ ts, ∃ v, value t r = .ok v) (out : Record) :
    ∃ out', replace value r ts out = .ok out' := by
  induction ts generalizing out with
  | nil => exact ⟨out, rfl⟩
  | cons t ts ih =>
    rw [List.forall_mem_cons] at h
    obtain ⟨⟨v, hv⟩, hrest⟩ := h
    obtain ⟨out', hout⟩ := ih hrest (out.insert t.field v)
    exact ⟨out', Except.bind_eq_ok_iff.mpr ⟨v, hv, hout⟩⟩

variable {c : Codec} {w form w' : Record} {key : String} {t : ListTransform}

theorem exists_lastTransform (ht : t ∈ c.transforms) :
    ∃ t', c.lastTransform? t.field = some t' := by
  cases hlast : c.lastTransform? t.field with
  | some t' => exact ⟨t', rfl⟩
  | none => exact absurd rfl (ListTransform.lastFor?_eq_none_iff.mp hlast t ht)

theorem exists_parse (h : ∀ t ∈ c.transforms, ∃ items, w.get? t.field = some (.ofTexts items)) :
    ∃ form, c.parse w = .ok form := by
  refine exists_replace (fun t ht ↦ ?_) w
  obtain ⟨items, hw⟩ := h t ht
  refine ⟨.text (Text.joinNames t.delimiter items), ?_⟩
  rw [ListTransform.parseValue, ListShape.classify, hw, ListShape.ofValue_eq_wire_iff.mpr rfl]
  rfl

theorem exists_items_of_parse (h : c.parse w = .ok form) (ht : c.lastTransform? key = some t) :
    ∃ items, w.get? key = some (.ofTexts items) ∧
      form.get? key = some (.text (Text.joinNames t.delimiter items)) := by
  obtain ⟨v, hv, hget⟩ := get?_replace_of_some h ht
  obtain ⟨items, hshape, rfl⟩ := ListTransform.classify_of_parseValue hv
  obtain ⟨-, rfl⟩ := ListTransform.mem_and_field_of_lastFor? ht
  exact ⟨items, ListShape.ofValue_eq_wire_iff.mp hshape, hget⟩

theorem exists_stringify_of_parse (h : c.parse w = .ok form) : ∃ w', c.stringify form = .ok w' := by
  refine exists_replace (fun t ht ↦ ?_) form
  obtain ⟨t', hlast⟩ := exists_lastTransform ht
  obtain ⟨items, -, hform⟩ := exists_items_of_parse h hlast
  refine ⟨.ofTexts (Text.splitNames t.delimiter (Text.joinNames t'.delimiter items)), ?_⟩
  rw [ListTransform.stringifyValue, ListShape.classify, hform]
  rfl

/-! ## What comes back -/

/-- A transformed field comes back as the names in its items. -/
theorem get?_stringify_parse (h : c.parse w = .ok form) (hback : c.stringify form = .ok w')
    (ht : c.lastTransform? key = some t) :
    ∃ items, w.get? key = some (.ofTexts items) ∧
      w'.get? key = some (.ofTexts (items.flatMap (Text.splitNames t.delimiter))) := by
  obtain ⟨items, hw, hform⟩ := exists_items_of_parse h ht
  obtain ⟨shape, hshape, hget⟩ := get?_stringify_of_some hback ht
  rw [hform, ListShape.ofValue_eq_ui_iff.mpr rfl, Except.ok.injEq] at hshape
  subst hshape
  rw [ListShape.toWire, Text.splitNames_joinNames] at hget
  exact ⟨items, hw, hget⟩

theorem stringify_of_parse (h : c.parse w = .ok form)
    (hnames : ∀ key t items, c.lastTransform? key = some t → w.get? key = some (.ofTexts items) →
      ∀ item ∈ items, Text.IsName t.delimiter item) : c.stringify form = .ok w := by
  obtain ⟨w', hback⟩ := exists_stringify_of_parse h
  have heq : w' = w := by
    refine Dictionary.ext_get? fun key ↦ ?_
    cases ht : c.lastTransform? key with
    | none => rw [get?_stringify_of_none hback ht, get?_parse_of_none h ht]
    | some t =>
      obtain ⟨items, hw, hget⟩ := get?_stringify_parse h hback ht
      rw [hget, hw, Text.flatMap_splitNames_eq_self_iff.mpr (hnames key t items ht hw)]
  rw [hback, heq]

/--
A wire record that can be parsed is written back, with its lists taken to the names in their items
and everything else as it was. It is written back unchanged exactly when every item of a transformed
list is a name for the delimiter of the field.
-/
theorem stringify_parse (c : Codec) {w form : Record} (h : c.parse w = .ok form) :
    ∃ w', c.stringify form = .ok w' ∧
      (∀ key, c.lastTransform? key = none → w'.get? key = w.get? key) ∧
      (∀ key t, c.lastTransform? key = some t → ∃ items, w.get? key = some (.ofTexts items) ∧
        w'.get? key = some (.ofTexts (items.flatMap (Text.splitNames t.delimiter)))) ∧
      (w' = w ↔ ∀ key t items, c.lastTransform? key = some t →
        w.get? key = some (.ofTexts items) → ∀ item ∈ items, Text.IsName t.delimiter item) := by
  obtain ⟨w', hback⟩ := exists_stringify_of_parse h
  have hplain : ∀ key, c.lastTransform? key = none → w'.get? key = w.get? key := fun key ht ↦ by
    rw [get?_stringify_of_none hback ht, get?_parse_of_none h ht]
  refine ⟨w', hback, hplain, fun key t ↦ get?_stringify_parse h hback, ?_, ?_⟩
  · rintro rfl key t items ht hw
    obtain ⟨items', hw', hget⟩ := get?_stringify_parse h hback ht
    rw [hget, Option.some.injEq, Json.ofTexts_inj] at hw hw'
    obtain rfl : items = items' := hw.symm.trans hw'
    exact Text.flatMap_splitNames_eq_self_iff.mp hw
  · intro hnames
    refine Dictionary.ext_get? fun key ↦ ?_
    cases ht : c.lastTransform? key with
    | none => exact hplain key ht
    | some t =>
      obtain ⟨items, hw, hget⟩ := get?_stringify_parse h hback ht
      rw [hget, hw, Text.flatMap_splitNames_eq_self_iff.mpr (hnames key t items ht hw)]

/-! ## A list that is declared twice -/

/-- A codec with two transforms of one field; the delimiter of the other field is a blank. -/
def sampleCodec : Codec where
  transforms := [{ field := "tags" }, { field := "words", delimiter := ' ' },
    { field := "tags", delimiter := ';' }]

/-- A wire record with lists that do not come back as they were, and one member more. -/
def sampleLists : Record :=
  .ofList [("id", .ofInt64 7), ("tags", .ofTexts ["a; b", " ", "c,d"]), ("words", .ofTexts [])]

/-- Only the second delimiter of the tags takes an item apart, and the blank item is lost. -/
theorem stringify_parse_sampleLists :
    ∃ form w', sampleCodec.parse sampleLists = .ok form ∧ sampleCodec.stringify form = .ok w' ∧
      w'.get? "tags" = some (.ofTexts ["a", "b", "c,d"]) ∧ w' ≠ sampleLists := by
  obtain ⟨form, hparse⟩ : ∃ form, sampleCodec.parse sampleLists = .ok form := ⟨_, rfl⟩
  obtain ⟨w', hback, -, hlists, hunchanged⟩ := stringify_parse sampleCodec hparse
  obtain ⟨items, hitems, htags⟩ := hlists "tags" { field := "tags", delimiter := ';' } rfl
  have hstored : sampleLists.get? "tags" = some (.ofTexts ["a; b", " ", "c,d"]) := by rfl
  rw [hstored, Option.some.injEq, Json.ofTexts_inj] at hitems
  subst hitems
  refine ⟨form, w', hparse, hback, htags, fun heq ↦ ?_⟩
  have hname := hunchanged.mp heq "tags" _ _ rfl hstored " " (by simp)
  exact absurd hname.trimmed_eq (by decide)

end Codec

end EntityForms
