import EntityForms.Proofs.Codec.Acceptance

/-!
# From the form to the wire and back

A form holds a text for each list, and many texts stand for the same list: they differ in white
space, in delimiters that separate nothing, in a last delimiter or none. Writing a form back takes
each text to the names in it, and a wire record whose lists consist of names (`Codec.IsNormal`) is
kept by parsing and writing back. So one round brings a form to a normal form, and every further
round leaves it there (`parse_stringify`).

A name has no delimiter in it, and that means the delimiter of the *last* transform of its field,
since this is the one that takes the text apart and puts the list together.
-/

namespace EntityForms.Codec

variable {c : Codec} {u w form : Record} {key : String} {t : ListTransform}

/-! ## Normal records -/

/-- Every transformed field is a list of names for the delimiter of its last transform. -/
def IsNormal (c : Codec) (w : Record) : Prop :=
  ∀ key t, c.lastTransform? key = some t →
    ∃ names, w.get? key = some (.ofTexts names) ∧ ∀ name ∈ names, Text.IsName t.delimiter name

theorem IsNormal.exists_parse (h : c.IsNormal w) : ∃ form, c.parse w = .ok form := by
  refine exists_replace_iff.mpr fun t ht ↦ ListTransform.exists_parseValue_iff.mpr ?_
  obtain ⟨t', hlast⟩ := exists_lastTransform ht
  obtain ⟨names, hget, -⟩ := h _ _ hlast
  exact ⟨names, hget⟩

theorem IsNormal.stringify_of_parse (h : c.IsNormal w) (hparse : c.parse w = .ok form) :
    c.stringify form = .ok w := by
  refine Codec.stringify_of_parse hparse fun key t items ht hitems ↦ ?_
  obtain ⟨names, hget, hnames⟩ := h key t ht
  obtain rfl : names = items := Json.ofTexts_inj.mp (Option.some.inj (hget.symm.trans hitems))
  exact hnames

/-! ## Forms of texts -/

/-- The form holds a text at every transformed field. -/
def HoldsTexts (c : Codec) (u : Record) : Prop :=
  ∀ t ∈ c.transforms, ∃ text, u.get? t.field = some (.text text)

theorem HoldsTexts.exists_stringify (h : c.HoldsTexts u) : ∃ w, c.stringify u = .ok w :=
  exists_replace_iff.mpr fun t ht ↦ ListTransform.exists_stringifyValue_iff.mpr (.inr (h t ht))

theorem HoldsTexts.get?_stringify (h : c.HoldsTexts u) (hw : c.stringify u = .ok w)
    (ht : c.lastTransform? key = some t) :
    ∃ text, u.get? key = some (.text text) ∧
      w.get? key = some (.ofTexts (Text.splitNames t.delimiter text)) := by
  obtain ⟨hmem, rfl⟩ := ListTransform.mem_and_field_of_lastFor? ht
  obtain ⟨text, htext⟩ := h t hmem
  obtain ⟨shape, hshape, hget⟩ := get?_stringify_of_some hw ht
  rw [htext, ListShape.ofValue_eq_ui_iff.mpr rfl, Except.ok.injEq] at hshape
  subst hshape
  exact ⟨text, htext, hget⟩

theorem HoldsTexts.isNormal_stringify (h : c.HoldsTexts u) (hw : c.stringify u = .ok w) :
    c.IsNormal w := by
  intro key t ht
  obtain ⟨text, -, hget⟩ := h.get?_stringify hw ht
  exact ⟨_, hget, fun name ↦ Text.isName_of_mem_splitNames⟩

/--
A form that holds a text for each list is written back, what comes out is parsed, and from then on
both records stay as they are: the wire record is written back as it was, and the form that comes of
that is the same again. The lists are the names in the texts, and the form then holds these joined.
A field without a transform has its value all the time.
-/
theorem parse_stringify (c : Codec) {u : Record} (h : c.HoldsTexts u) :
    ∃ w form, c.stringify u = .ok w ∧ c.parse w = .ok form ∧ c.stringify form = .ok w ∧
      (c.stringify form >>= c.parse) = .ok form ∧ c.IsNormal w ∧
      (∀ key t, c.lastTransform? key = some t → ∃ text, u.get? key = some (.text text) ∧
        w.get? key = some (.ofTexts (Text.splitNames t.delimiter text)) ∧
        form.get? key =
          some (.text (Text.joinNames t.delimiter (Text.splitNames t.delimiter text)))) ∧
      ∀ key, (∀ t ∈ c.transforms, t.field ≠ key) →
        w.get? key = u.get? key ∧ form.get? key = u.get? key := by
  obtain ⟨w, hw⟩ := h.exists_stringify
  have hnormal := h.isNormal_stringify hw
  obtain ⟨form, hform⟩ := hnormal.exists_parse
  have hback := hnormal.stringify_of_parse hform
  refine ⟨w, form, hw, hform, hback, ?_, hnormal, ?_, ?_⟩
  · exact Except.bind_eq_ok_iff.mpr ⟨w, hback, hform⟩
  · intro key t ht
    obtain ⟨text, htext, hnames⟩ := h.get?_stringify hw ht
    obtain ⟨names, hget, hjoined⟩ := exists_items_of_parse hform ht
    rw [hnames, Option.some.injEq, Json.ofTexts_inj] at hget
    exact ⟨text, htext, hnames, hget ▸ hjoined⟩
  · intro key hkey
    have hplain : c.lastTransform? key = none := ListTransform.lastFor?_eq_none_iff.mpr hkey
    have hwire := get?_stringify_of_none hw hplain
    exact ⟨hwire, (get?_parse_of_none hform hplain).trans hwire⟩

/-- A form with superfluous delimiters and white space, and one member more. -/
def sampleTexts : Record :=
  .ofList [("id", .ofInt64 7), ("tags", .text " a ;; b,c ;"), ("words", .text "  ")]

/-- The tags are taken apart at the second of their two delimiters, and there is no word between
delimiters that are blanks themselves. -/
theorem parse_stringify_sampleTexts :
    sampleCodec.HoldsTexts sampleTexts ∧
      ∃ w form, sampleCodec.stringify sampleTexts = .ok w ∧ sampleCodec.parse w = .ok form ∧
        sampleCodec.stringify form = .ok w ∧ w.get? "tags" = some (.ofTexts ["a", "b,c"]) ∧
        form.get? "tags" = some (.text "a;b,c") ∧ form.get? "words" = some (.text "") ∧
        form.get? "id" = some (.ofInt64 7) := by
  have htexts : sampleCodec.HoldsTexts sampleTexts := by
    simp only [HoldsTexts, sampleCodec, List.forall_mem_cons]
    exact ⟨⟨_, rfl⟩, ⟨_, rfl⟩, ⟨_, rfl⟩, fun _ h ↦ absurd h List.not_mem_nil⟩
  obtain ⟨w, form, hw, hform, hback, -, -, hlists, hplain⟩ := parse_stringify sampleCodec htexts
  obtain ⟨tags, htags, hnames, hjoined⟩ := hlists "tags" _ rfl
  obtain ⟨words, hwords, -, hblank⟩ := hlists "words" _ rfl
  obtain rfl : " a ;; b,c ;" = tags := Json.text.inj (Option.some.inj htags)
  obtain rfl : "  " = words := Json.text.inj (Option.some.inj hwords)
  exact ⟨htexts, w, form, hw, hform, hback, hnames, hjoined, hblank,
    (hplain "id" (by decide)).2⟩

end EntityForms.Codec
