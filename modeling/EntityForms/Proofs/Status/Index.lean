import EntityForms.Proofs.Lists.Keys
import EntityForms.Status
import Mathlib.Data.List.Induction

/-!
# The index of a status table

A status table is built in one pass that enters the position of each code into an index and stops at
the first code that it has entered before. Through the index a table finds what a scan of its
entries finds (`Indexes`). So a table is built exactly when no code occurs twice, and what it looks
up, the tags that it gives and the JSON values that it knows are told by the entries alone
(`AgreesWith`).
-/

namespace EntityForms

/-! ## Codes as JSON values -/

namespace StatusValue

variable {j : Json} {v w : StatusValue}

theorem ofJson?_eq_some_iff : ofJson? j = some v ↔ j = v.toJson := by
  constructor
  · intro h
    rcases j with _ | _ | n | s | _ | _
    case number =>
      obtain ⟨k, hk, rfl⟩ := Option.map_eq_some_iff.mp h
      rw [Number.int64?_eq_some_iff.mp hk]
      rfl
    case text =>
      obtain rfl := Option.some.inj h
      rfl
    all_goals cases h
  · rintro rfl
    exact ofJson?_toJson v

theorem reader_eq_ok_iff : reader j = .ok v ↔ j = v.toJson := by
  rw [← ofJson?_eq_some_iff, reader]
  cases ofJson? j <;> simp

/-- Different codes are written as different values: `1` and `"1"` are kept apart. -/
theorem toJson_inj : v.toJson = w.toJson ↔ v = w := by
  rw [← ofJson?_eq_some_iff, ofJson?_toJson, Option.some.injEq]

end StatusValue

namespace StatusTable

variable {table : String} {index : List (StatusValue × Nat)} {before entries : List Status}
  {s : Status} {v : StatusValue} {e : ConfigurationError} {t : StatusTable}

/-! ## Repeated codes -/

/-- The first status whose code occurs before it. -/
def IsFirstRepetition (entries : List Status) (s : Status) : Prop :=
  ∃ before after, entries = before ++ s :: after ∧ (before.map Status.value).Nodup ∧
    s.value ∈ before.map Status.value

theorem nodup_or_exists_isFirstRepetition (entries : List Status) :
    (entries.map Status.value).Nodup ∨ ∃ s, IsFirstRepetition entries s := by
  induction entries using List.reverseRecOn with
  | nil => exact .inl List.nodup_nil
  | append_singleton before s ih =>
    rcases ih with hdistinct | ⟨r, first, after, rfl, hdistinct, hrepeated⟩
    · by_cases hs : s.value ∈ before.map Status.value
      · exact .inr ⟨s, before, [], rfl, hdistinct, hs⟩
      · exact .inl (nodup_map_append_singleton.mpr ⟨hdistinct, hs⟩)
    · exact .inr ⟨r, first, after ++ [s], by simp, hdistinct, hrepeated⟩

/-! ## Entering codes -/

theorem enter_append (table : String)
    (hindex : Indexes (index.lookup ·) (before.map Status.value)) {mid : List Status}
    (hdistinct : ((before ++ mid).map Status.value).Nodup) :
    ∃ index', Indexes (index'.lookup ·) ((before ++ mid).map Status.value) ∧ ∀ rest,
      enter table index before.length (mid ++ rest) =
        enter table index' (before ++ mid).length rest := by
  induction mid generalizing index before with
  | nil => exact ⟨index, by rwa [List.append_nil], fun rest ↦ by rw [List.append_nil]; rfl⟩
  | cons s mid ih =>
    have hnew : s.value ∉ before.map Status.value := key_not_mem_of_nodup hdistinct
    rw [List.append_cons] at hdistinct ⊢
    obtain ⟨index', hindex', henter⟩ := ih (indexes_cons hindex hnew) hdistinct
    refine ⟨index', hindex', fun rest ↦ ?_⟩
    rw [List.cons_append, enter, if_neg (mt hindex.isSome_iff.mp hnew), ← henter,
      List.length_append, List.length_singleton]

theorem indexes_nil : Indexes (([] : List (StatusValue × Nat)).lookup ·)
    (([] : List Status).map Status.value) :=
  .nil fun _ ↦ rfl

theorem enter_of_isFirstRepetition (table : String) (h : IsFirstRepetition entries s) :
    enter table [] 0 entries = .error (.duplicateStatus table s.value.display) := by
  obtain ⟨before, after, rfl, hdistinct, hrepeated⟩ := h
  obtain ⟨index, hindex, henter⟩ := enter_append table indexes_nil hdistinct
  refine (henter (s :: after)).trans ?_
  rw [enter, if_pos (hindex.isSome_iff.mpr hrepeated)]

/-! ## Tables that are built -/

theorem exists_build_of_nodup (table : String) (h : (entries.map Status.value).Nodup) :
    ∃ t, build table entries = .ok t := by
  cases hbuild : build table entries with
  | ok t => exact ⟨t, rfl⟩
  | error e =>
    obtain ⟨index, -, henter⟩ := enter_append table indexes_nil h
    have hall := henter []
    rw [List.append_nil] at hall
    cases hall.symm.trans (build_eq_error_iff.mp hbuild)

theorem build_of_isFirstRepetition (table : String) (h : IsFirstRepetition entries s) :
    build table entries = .error (.duplicateStatus table s.value.display) :=
  build_eq_error_iff.mpr (enter_of_isFirstRepetition table h)

theorem exists_build_iff :
    (∃ t, build table entries = .ok t) ↔ (entries.map Status.value).Nodup := by
  refine ⟨?_, exists_build_of_nodup table⟩
  rintro ⟨t, ht⟩
  exact (eq_of_build ht).2 ▸ t.nodup_codes

theorem build_eq_error_iff_isFirstRepetition : build table entries = .error e ↔
    ∃ s, IsFirstRepetition entries s ∧ e = .duplicateStatus table s.value.display := by
  constructor
  · intro he
    rcases nodup_or_exists_isFirstRepetition entries with hdistinct | ⟨s, hs⟩
    · obtain ⟨t, ht⟩ := exists_build_of_nodup table hdistinct
      cases he.symm.trans ht
    · exact ⟨s, hs, Except.error.inj (he.symm.trans (build_of_isFirstRepetition table hs))⟩
  · rintro ⟨s, hs, rfl⟩
    exact build_of_isFirstRepetition table hs

/-- A table tells of the given entries what a scan of them tells. Its index leads to the places
where the codes stand and nowhere else; a code is looked up as the one entry that has it; the tag of
a known code shows its entry, and that of an unknown one the code itself. A JSON value that is read
as a code is known when the code of some entry is written so. -/
structure AgreesWith (t : StatusTable) (entries : List Status) : Prop where
  entries_eq : t.entries = entries
  index_iff : ∀ v i, t.index.lookup v = some i ↔ ∃ s, entries[i]? = some s ∧ s.value = v
  lookup_eq_find? : ∀ v, t.lookup v = entries.find? fun s ↦ s.value == v
  lookup_iff : ∀ v s, t.lookup v = some s ↔ s ∈ entries ∧ s.value = v
  lookup_eq_none_iff : ∀ v, t.lookup v = none ↔ v ∉ entries.map Status.value
  tag_known : ∀ s ∈ entries, t.tag s.value = ⟨s.kind, s.label, s.icon⟩
  tag_unknown : ∀ v, v ∉ entries.map Status.value → t.tag v = ⟨.default, v.display, none⟩
  known_iff : ∀ j v, StatusValue.reader j = .ok v →
    ((t.lookup v).isSome = true ↔ ∃ s ∈ entries, s.value.toJson = j)

theorem agreesWith_entries (t : StatusTable) : t.AgreesWith t.entries := by
  have hscan : ∀ v, t.lookup v = t.entries.find? fun s ↦ s.value == v := t.indexed.bind_getElem?
  have hsome : ∀ v s, t.lookup v = some s ↔ s ∈ t.entries ∧ s.value = v := fun v s ↦ by
    rw [hscan, find?_key_eq_some_iff t.nodup_codes]
  have hnone : ∀ v, t.lookup v = none ↔ v ∉ t.entries.map Status.value := fun v ↦ by
    rw [hscan, List.find?_eq_none]
    simp
  refine ⟨rfl, fun v i ↦ ?_, hscan, hsome, hnone, fun s hs ↦ ?_, fun v hv ↦ ?_, fun j v hj ↦ ?_⟩
  · have hindex : t.index.lookup v = _ := t.indexed v
    rw [hindex, List.findIdx?_map]
    exact findIdx?_key_eq_some_iff t.nodup_codes
  · rw [tag, (hsome _ s).mpr ⟨hs, rfl⟩]
    rfl
  · rw [tag, (hnone v).mpr hv]
  · obtain rfl := StatusValue.reader_eq_ok_iff.mp hj
    rw [Option.isSome_iff_exists]
    simp only [hsome, StatusValue.toJson_inj]

/--
Statuses make a table exactly when their codes are distinct, a number and a text never being the
same; otherwise the first code that occurs before is reported. A value that is read as a code is
written back as it was, and a table that was built agrees with a scan of its entries.
-/
theorem build_agreesWith_or_reports_first_repetition (table : String) (entries : List Status) :
    ((∃ t, build table entries = .ok t) ↔ (entries.map Status.value).Nodup) ∧
    (∀ e, build table entries = .error e ↔
      ∃ s, IsFirstRepetition entries s ∧ e = .duplicateStatus table s.value.display) ∧
    (∀ n text, StatusValue.number n ≠ .text text) ∧
    (∀ j v, StatusValue.reader j = .ok v → v.toJson = j) ∧
    ∀ t, build table entries = .ok t → t.name = table ∧ t.AgreesWith entries := by
  refine ⟨exists_build_iff, fun e ↦ build_eq_error_iff_isFirstRepetition, fun n text h ↦ ?_,
    fun j v h ↦ (StatusValue.reader_eq_ok_iff.mp h).symm, fun t ht ↦ ?_⟩
  · cases h
  · obtain ⟨hname, rfl⟩ := eq_of_build ht
    exact ⟨hname, t.agreesWith_entries⟩

/-- A number and the text that it is shown as. -/
def sampleCodes : List Status :=
  [{ value := .number 1, label := "on" },
    { value := .text "1", label := "one", kind := .warning, icon := some "stop" }]

/-- The two codes make a table, which keeps them apart. With each of them repeated, the first
repetition is reported. -/
theorem first_repetition_of_sampleCodes :
    (∃ t, build "switch" sampleCodes = .ok t ∧ t.AgreesWith sampleCodes) ∧
      (∃ v, StatusValue.reader (.text "1") = .ok v ∧ v.toJson = .text "1") ∧
      build "switch" (sampleCodes ++ [⟨.text "1", "again", .error, none⟩,
          ⟨.number 1, "once more", .error, none⟩]) =
        .error (.duplicateStatus "switch" "1") := by
  obtain ⟨-, -, -, hwritten, hagrees⟩ :=
    build_agreesWith_or_reports_first_repetition "switch" sampleCodes
  refine ⟨⟨_, rfl, (hagrees _ rfl).2⟩, ⟨_, rfl, hwritten _ _ rfl⟩, ?_⟩
  refine ((build_agreesWith_or_reports_first_repetition "switch" _).2.1 _).mpr
    ⟨⟨.text "1", "again", .error, none⟩, ?_, rfl⟩
  exact ⟨sampleCodes, [_], rfl, by decide, by decide⟩

end StatusTable

end EntityForms
