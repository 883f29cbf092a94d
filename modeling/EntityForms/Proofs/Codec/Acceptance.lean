import EntityForms.Proofs.Codec.RoundTrip

/-!
# Which records a codec converts

Either conversion asks each transform whether its field has a certain shape: a list of texts for
parsing, a list of texts or a delimited text for writing back. A record is converted when all of
them have it. Otherwise the first transform that asks in vain is reported, with what is wrong about
the value (`ListShape.Fault`); transforms after it are not looked at.

`Codec.ConvertsWhere` says this of a conversion, together with what it leaves alone, and it is
proved once for both. They differ in what a second round does: writing back what has been written
back changes nothing, since lists are written as they are, while a parsed record has texts where
parsing asks for lists (`convertsWhere_parse_and_stringify`).
-/

namespace EntityForms

/-! ## The value of one field -/

namespace ListShape

/-- The value is a list of texts. -/
def IsTexts (value : Option Json) : Prop := ∃ items, value = some (.ofTexts items)

/-- The value is a list of texts or a delimited text. -/
def IsTextsOrText (value : Option Json) : Prop :=
  IsTexts value ∨ ∃ text, value = some (.text text)

/-- What is reported of a field whose value has not the shape that was asked for. -/
inductive Fault (field : String) : Option Json → CodecError → Prop where
  | missing {value : Option Json} (h : value = none ∨ value = some .null) :
    Fault field value (.missingField field)
  /-- The first item that is not a text is reported by its kind. -/
  | item (texts : List String) {item : Json} (rest : List Json) (h : item.kind ≠ .string) :
    Fault field (some (.list (texts.map .text ++ item :: rest)))
      (.malformedField field (.itemNotText item.kind))
  | delimitedText (text : String) :
    Fault field (some (.text text)) (.malformedField field .delimitedText)
  | notAList {v : Json} (h : v.kind = .bool ∨ v.kind = .number ∨ v.kind = .object) :
    Fault field (some v) (.malformedField field (.notAList v.kind))

variable {field : String} {value : Option Json} {e : CodecError}

theorem kind_eq_string_iff {v : Json} : v.kind = .string ↔ ∃ text, v = .text text := by
  cases v <;> simp [Json.kind]

theorem texts_eq_error_iff {items : List Json} {kind : Json.Kind} :
    texts items = .error kind ↔ ∃ (names : List String) (item : Json) (rest : List Json),
      items = names.map .text ++ item :: rest ∧ item.kind ≠ .string ∧ item.kind = kind := by
  induction items with
  | nil => simp [texts]
  | cons v items ih =>
    by_cases hv : v.kind = .string
    · obtain ⟨text, rfl⟩ := kind_eq_string_iff.mp hv
      have hstep : texts (.text text :: items) = .error kind ↔ texts items = .error kind := by
        rw [texts]
        cases texts items <;> simp [Except.map]
      rw [hstep, ih]
      constructor
      · rintro ⟨names, item, rest, rfl, hitem⟩
        exact ⟨text :: names, item, rest, rfl, hitem⟩
      · rintro ⟨names, item, rest, hitems, hitem, hkind⟩
        -- the text is not the item that is reported
        rcases names with _ | ⟨name, names⟩
        · obtain ⟨rfl, -⟩ := List.cons.inj hitems
          exact absurd rfl hitem
        · exact ⟨names, item, rest, (List.cons.inj hitems).2, hitem, hkind⟩
    · have hhead : texts (v :: items) = .error v.kind := by
        cases v with
        | text text => exact absurd rfl hv
        | null | bool | number | list | object => rfl
      rw [hhead, Except.error.injEq]
      constructor
      · rintro rfl
        exact ⟨[], v, items, rfl, hv, rfl⟩
      · rintro ⟨names, item, rest, hitems, -, rfl⟩
        rcases names with _ | ⟨name, names⟩
        · rw [(List.cons.inj hitems).1]
        · exact absurd (kind_eq_string_iff.mpr ⟨name, (List.cons.inj hitems).1⟩) hv

theorem exists_ofValue_iff : (∃ shape, ofValue field value = .ok shape) ↔ IsTextsOrText value := by
  constructor
  · rintro ⟨items | text, hshape⟩
    · exact .inl ⟨items, ofValue_eq_wire_iff.mp hshape⟩
    · exact .inr ⟨text, ofValue_eq_ui_iff.mp hshape⟩
  · rintro (⟨items, hvalue⟩ | ⟨text, hvalue⟩)
    · exact ⟨.wire items, ofValue_eq_wire_iff.mpr hvalue⟩
    · exact ⟨.ui text, ofValue_eq_ui_iff.mpr hvalue⟩

theorem ofValue_eq_error_iff :
    ofValue field value = .error e ↔ ¬IsTextsOrText value ∧ Fault field value e := by
  constructor
  · intro h
    refine ⟨fun hshape ↦ ?_, ?_⟩
    · obtain ⟨shape, hok⟩ := exists_ofValue_iff.mpr hshape
      cases h.symm.trans hok
    · rcases value with _ | v
      · obtain rfl := Except.error.inj h
        exact .missing (.inl rfl)
      · cases v with
        | text text => cases h
        | null =>
          obtain rfl := Except.error.inj h
          exact .missing (.inr rfl)
        | list items =>
          rw [ofValue] at h
          split at h
          case h_1 => cases h
          case h_2 kind hkind =>
            obtain rfl := Except.error.inj h
            obtain ⟨names, item, rest, rfl, hitem, rfl⟩ := texts_eq_error_iff.mp hkind
            exact .item names rest hitem
        | bool | number | object =>
          obtain rfl := Except.error.inj h
          exact .notAList (by simp [Json.kind])
  · rintro ⟨hshape, hfault⟩
    cases hfault with
    | missing h => rcases h with rfl | rfl <;> rfl
    | delimitedText text => exact absurd (.inr ⟨text, rfl⟩) hshape
    | item names rest hitem =>
      rw [ofValue, texts_eq_error_iff.mpr ⟨names, _, rest, rfl, hitem, rfl⟩]
    | @notAList v h => cases v <;> simp_all [Json.kind, ofValue]

end ListShape

/-! ## One transform -/

namespace ListTransform

variable {t : ListTransform} {r : Record} {e : CodecError}

theorem exists_parseValue_iff :
    (∃ v, t.parseValue r = .ok v) ↔ ListShape.IsTexts (r.get? t.field) := by
  constructor
  · rintro ⟨v, hv⟩
    obtain ⟨items, hshape, -⟩ := classify_of_parseValue hv
    exact ⟨items, ListShape.ofValue_eq_wire_iff.mp hshape⟩
  · rintro ⟨items, hvalue⟩
    refine ⟨.text (Text.joinNames t.delimiter items), ?_⟩
    rw [parseValue, ListShape.classify, hvalue, ListShape.ofValue_eq_wire_iff.mpr rfl]
    rfl

theorem exists_stringifyValue_iff :
    (∃ v, t.stringifyValue r = .ok v) ↔ ListShape.IsTextsOrText (r.get? t.field) := by
  constructor
  · rintro ⟨v, hv⟩
    obtain ⟨shape, hshape, -⟩ := Except.bind_eq_ok_iff.mp hv
    exact ListShape.exists_ofValue_iff.mp ⟨shape, hshape⟩
  · intro hvalue
    obtain ⟨shape, hshape⟩ := ListShape.exists_ofValue_iff.mpr hvalue
    exact ⟨_, Except.bind_eq_ok_iff.mpr ⟨shape, hshape, rfl⟩⟩

theorem parseValue_eq_error_iff :
    t.parseValue r = .error e ↔
      ¬ListShape.IsTexts (r.get? t.field) ∧ ListShape.Fault t.field (r.get? t.field) e := by
  rw [parseValue, ListShape.classify]
  rcases hshape : ListShape.ofValue t.field (r.get? t.field) with e' | items | text
  · obtain ⟨hnone, hfault⟩ := ListShape.ofValue_eq_error_iff.mp hshape
    change Except.error e' = Except.error e ↔ _
    rw [Except.error.injEq]
    constructor
    · rintro rfl
      exact ⟨fun htexts ↦ hnone (.inl htexts), hfault⟩
    · rintro ⟨-, hfault'⟩
      have hshape' := ListShape.ofValue_eq_error_iff.mpr ⟨hnone, hfault'⟩
      exact Except.error.inj (hshape.symm.trans hshape')
  · have hvalue := ListShape.ofValue_eq_wire_iff.mp hshape
    constructor
    · intro h
      cases h
    · rintro ⟨hnone, -⟩
      exact absurd ⟨items, hvalue⟩ hnone
  · have hvalue := ListShape.ofValue_eq_ui_iff.mp hshape
    rw [hvalue]
    change Except.error _ = Except.error e ↔ _
    rw [Except.error.injEq]
    constructor
    · rintro rfl
      exact ⟨by simp [ListShape.IsTexts, Json.ofTexts], .delimitedText text⟩
    · rintro ⟨-, hfault⟩
      rcases hfault with h | - | - | h
      · simp at h
      · rfl
      · simp [Json.kind] at h

theorem stringifyValue_eq_error_iff :
    t.stringifyValue r = .error e ↔
      ¬ListShape.IsTextsOrText (r.get? t.field) ∧
        ListShape.Fault t.field (r.get? t.field) e := by
  rw [← ListShape.ofValue_eq_error_iff, stringifyValue, ListShape.classify]
  cases ListShape.ofValue t.field (r.get? t.field) <;> simp [bind, Except.bind]

end ListTransform

/-! ## All transforms -/

namespace Codec

section Replace

variable {value : ListTransform → Record → Except CodecError Json} {r out out' : Record}
  {ts : List ListTransform} {e : CodecError}

theorem exists_replace_iff :
    (∃ out', replace value r ts out = .ok out') ↔ ∀ t ∈ ts, ∃ v, value t r = .ok v := by
  constructor
  · rintro ⟨out', h⟩
    induction ts generalizing out with
    | nil => exact fun t ht ↦ absurd ht List.not_mem_nil
    | cons t ts ih =>
      obtain ⟨v, hv, hrest⟩ := Except.bind_eq_ok_iff.mp h
      exact List.forall_mem_cons.mpr ⟨⟨v, hv⟩, ih hrest⟩
  · exact fun h ↦ exists_replace h out

/-- The error of a conversion is that of the first transform that has one. -/
theorem replace_eq_error_iff :
    replace value r ts out = .error e ↔ ∃ before t after, ts = before ++ t :: after ∧
      (∀ t' ∈ before, ∃ v, value t' r = .ok v) ∧ value t r = .error e := by
  induction ts generalizing out with
  | nil => simp [replace]
  | cons t ts ih =>
    rw [replace]
    rcases ht : value t r with e' | v
    · change Except.error e' = Except.error e ↔ _
      rw [Except.error.injEq]
      constructor
      · rintro rfl
        exact ⟨[], t, ts, rfl, fun _ h' ↦ absurd h' List.not_mem_nil, ht⟩
      · rintro ⟨before, t', after, hts, hbefore, herror⟩
        rcases before with _ | ⟨t₀, before⟩
        · obtain ⟨rfl, -⟩ := List.cons.inj hts
          exact Except.error.inj (ht.symm.trans herror)
        · obtain ⟨rfl, -⟩ := List.cons.inj hts
          obtain ⟨v, hv⟩ := hbefore t List.mem_cons_self
          cases ht.symm.trans hv
    · change replace value r ts (out.insert t.field v) = .error e ↔ _
      rw [ih]
      constructor
      · rintro ⟨before, t', after, rfl, hbefore, herror⟩
        exact ⟨t :: before, t', after, rfl, List.forall_mem_cons.mpr ⟨⟨v, ht⟩, hbefore⟩, herror⟩
      · rintro ⟨before, t', after, hts, hbefore, herror⟩
        rcases before with _ | ⟨t₀, before⟩
        · obtain ⟨rfl, -⟩ := List.cons.inj hts
          cases ht.symm.trans herror
        · obtain ⟨rfl, rfl⟩ := List.cons.inj hts
          exact ⟨before, t', after, rfl, (List.forall_mem_cons.mp hbefore).2, herror⟩

end Replace

/-- A conversion takes the records that have a shape at every transformed field. Of another one it
reports the first transform whose field has it not. In what it takes it keeps the keys, and the
values of all fields without a transform. -/
structure ConvertsWhere (c : Codec) (HasShape : Option Json → Prop)
    (convert : Record → Except CodecError Record) : Prop where
  accepts_iff : ∀ r, (∃ out, convert r = .ok out) ↔ ∀ t ∈ c.transforms, HasShape (r.get? t.field)
  refuses_iff : ∀ r e, convert r = .error e ↔
    ∃ before t after, c.transforms = before ++ t :: after ∧
      (∀ t' ∈ before, HasShape (r.get? t'.field)) ∧ ¬HasShape (r.get? t.field) ∧
      ListShape.Fault t.field (r.get? t.field) e
  contains_eq : ∀ r out, convert r = .ok out → ∀ key, out.contains key = r.contains key
  get?_eq : ∀ r out, convert r = .ok out → ∀ key, (∀ t ∈ c.transforms, t.field ≠ key) →
    out.get? key = r.get? key

variable {c : Codec} {r w form : Record} {t : ListTransform}

theorem convertsWhere_replace (c : Codec) {HasShape : Option Json → Prop}
    {value : ListTransform → Record → Except CodecError Json} (hnone : ¬HasShape none)
    (hok : ∀ t r, (∃ v, value t r = .ok v) ↔ HasShape (r.get? t.field))
    (herror : ∀ t r e, value t r = .error e ↔
      ¬HasShape (r.get? t.field) ∧ ListShape.Fault t.field (r.get? t.field) e) :
    c.ConvertsWhere HasShape fun r ↦ replace value r c.transforms r where
  accepts_iff r := by simp only [exists_replace_iff, hok]
  refuses_iff r e := by simp only [replace_eq_error_iff, hok, herror]
  contains_eq r out h key := by
    refine contains_replace h fun t _ v hv ↦ Dictionary.contains_iff.mpr ?_
    refine Option.ne_none_iff_exists'.mp fun habsent ↦ hnone ?_
    rw [← habsent]
    exact (hok t r).mp ⟨v, hv⟩
  get?_eq r out h key hkey := get?_replace_of_none h (ListTransform.lastFor?_eq_none_iff.mpr hkey)

theorem stringify_stringify (h : c.stringify r = .ok w) : c.stringify w = .ok w := by
  have hlists : ∀ t ∈ c.transforms, ListShape.IsTexts (w.get? t.field) := by
    intro t ht
    obtain ⟨t', hlast⟩ := exists_lastTransform ht
    obtain ⟨shape, -, hget⟩ := get?_stringify_of_some h hlast
    exact ⟨_, hget⟩
  obtain ⟨w', hw'⟩ : ∃ w', c.stringify w = .ok w' := exists_replace_iff.mpr fun t ht ↦
    ListTransform.exists_stringifyValue_iff.mpr (.inl (hlists t ht))
  have heq : w' = w := by
    refine Dictionary.ext_get? fun key ↦ ?_
    cases ht : c.lastTransform? key with
    | none => exact get?_stringify_of_none hw' ht
    | some t =>
      obtain ⟨shape, -, hget⟩ := get?_stringify_of_some h ht
      obtain ⟨shape', hshape', hget'⟩ := get?_stringify_of_some hw' ht
      rw [hget, ListShape.ofValue_eq_wire_iff.mpr rfl, Except.ok.injEq] at hshape'
      subst hshape'
      rw [hget', hget, ListShape.toWire]
  rw [hw', heq]

/-- What has been parsed is not parsed again: the first transformed field is a text. -/
theorem parse_of_parse (h : c.parse w = .ok form) (ht : c.transforms.head? = some t) :
    c.parse form = .error (.malformedField t.field .delimitedText) := by
  obtain ⟨ts, hts⟩ := List.head?_eq_some_iff.mp ht
  have hfirst : t ∈ c.transforms := hts ▸ List.mem_cons_self
  obtain ⟨t', hlast⟩ := exists_lastTransform hfirst
  obtain ⟨items, -, hform⟩ := exists_items_of_parse h hlast
  have hrefused : t.parseValue form = .error (.malformedField t.field .delimitedText) := by
    rw [ListTransform.parseValue, ListShape.classify, hform]
    rfl
  rw [parse, hts, replace, hrefused]
  rfl

/--
Parsing takes the records with a list of texts at every transformed field, and writing back also
those with a text there; of another record either reports the first transform that asks in vain,
and neither touches a field without a transform. What has been written back is written back as it
is, and what has been parsed is refused for its first transform.
-/
theorem convertsWhere_parse_and_stringify (c : Codec) :
    c.ConvertsWhere ListShape.IsTexts c.parse ∧
      c.ConvertsWhere ListShape.IsTextsOrText c.stringify ∧
      (∀ r w, c.stringify r = .ok w → c.stringify w = .ok w) ∧
      ∀ w form t, c.transforms.head? = some t → c.parse w = .ok form →
        c.parse form = .error (.malformedField t.field .delimitedText) := by
  refine ⟨?_, ?_, fun r w ↦ stringify_stringify, fun w form t ht h ↦ parse_of_parse h ht⟩
  · exact c.convertsWhere_replace (by simp [ListShape.IsTexts])
      (fun _ _ ↦ ListTransform.exists_parseValue_iff)
      (fun _ _ _ ↦ ListTransform.parseValue_eq_error_iff)
  · exact c.convertsWhere_replace (by simp [ListShape.IsTextsOrText, ListShape.IsTexts])
      (fun _ _ ↦ ListTransform.exists_stringifyValue_iff)
      (fun _ _ _ ↦ ListTransform.stringifyValue_eq_error_iff)

/-- A form with a text where a list is expected, and a list with a number among its texts. -/
def sampleFaults : Record :=
  .ofList [("tags", .text "a; b"), ("words", .list [.text "x", .ofInt64 7, .null])]

/-- The form is not written back because of the number. The lists of another record are parsed, and
a second round refuses them or leaves them as they are. -/
theorem convertsWhere_sampleCodec :
    sampleCodec.stringify sampleFaults =
        .error (.malformedField "words" (.itemNotText .number)) ∧
      ∃ form w, sampleCodec.parse sampleLists = .ok form ∧
        sampleCodec.parse form = .error (.malformedField "tags" .delimitedText) ∧
        sampleCodec.stringify form = .ok w ∧ sampleCodec.stringify w = .ok w := by
  obtain ⟨-, hstringify, hagain, hparsed⟩ := convertsWhere_parse_and_stringify sampleCodec
  have hwords : sampleFaults.get? "words" =
      some (.list (["x"].map .text ++ .ofInt64 7 :: [.null])) := by rfl
  obtain ⟨form, hform⟩ : ∃ form, sampleCodec.parse sampleLists = .ok form := ⟨_, rfl⟩
  obtain ⟨w, hw⟩ := exists_stringify_of_parse hform
  refine ⟨?_, form, w, hform, hparsed _ _ _ rfl hform, hw, hagain _ _ hw⟩
  refine (hstringify.refuses_iff _ _).mpr ⟨[{ field := "tags" }],
    { field := "words", delimiter := ' ' }, [{ field := "tags", delimiter := ';' }],
    rfl, ?_, ?_, ?_⟩
  · rw [List.forall_mem_singleton]
    exact .inr ⟨"a; b", rfl⟩
  · rw [hwords]
    rintro (⟨items, hitems⟩ | ⟨text, htext⟩)
    · cases ListShape.texts_eq_ok_iff.mpr (Json.list.inj (Option.some.inj hitems))
    · cases htext
  · rw [hwords]
    exact .item ["x"] [.null] (by decide)

end Codec

end EntityForms
