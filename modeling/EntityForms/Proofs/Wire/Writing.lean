import EntityForms.Proofs.Wire.Acceptance

/-!
# Writing what was read

A typed record is written as the record that it was read from, in a normal form: members that may be
absent and are null are left out, and a variant that came as an object over null is written by its
name. A source keeps the members that it does not know, and an account drops them
(`PostgresSource.normalized`, `UserAccount.normalized`). For each type, a record is read as a value
exactly when its normal form is what the value is written as; a normal form is its own normal form,
so what was written is read as the same value again.
-/

namespace EntityForms

/-! ## Normal forms -/

/-- The value is null. -/
def Json.isNull : Json → Bool
  | .null => true
  | _ => false

/-- A variant by its name, where it is written as an object over null. -/
def Json.nameVariant : Json → Json
  | .object members => match members.entries with
    | [(name, .null)] => .text name
    | _ => .object members
  | value => value

theorem Json.isNull_nameVariant (v : Json) : v.nameVariant.isNull = v.isNull := by
  fun_cases nameVariant v <;> rfl

theorem Json.nameVariant_nameVariant (v : Json) : v.nameVariant.nameVariant = v.nameVariant := by
  fun_cases nameVariant v with
  | case1 => rfl
  | case2 _ members hother =>
    rw [nameVariant]
    split
    case h_1 name hentries => exact absurd hentries (hother name)
    case h_2 => rfl
  | case3 value hother => rw [nameVariant]; exact hother

namespace Record

variable {r : Record} {key : String}

/-- Leave out these keys where they are null. -/
def dropNulls (r : Record) (keys : List String) : Record :=
  r.filterKeys fun key ↦ !(keys.contains key && (r.get? key).any Json.isNull)

/-- Change the value of a key that is there. -/
def update (r : Record) (key : String) (change : Json → Json) : Record :=
  r.insertSome key ((r.get? key).map change)

theorem get?_dropNulls_of_mem {keys : List String} (h : key ∈ keys) :
    (r.dropNulls keys).get? key = (r.get? key).filter fun v ↦ !v.isNull := by
  rw [dropNulls, Dictionary.get?_filterKeys, List.contains_iff_mem.mpr h, Bool.true_and]
  cases r.get? key with
  | none => rfl
  | some v => cases hv : v.isNull <;> simp [Option.filter, hv]

theorem get?_dropNulls_of_not_mem {keys : List String} (h : key ∉ keys) :
    (r.dropNulls keys).get? key = r.get? key := by
  rw [dropNulls, Dictionary.get?_filterKeys, if_pos]
  simp [h]

theorem get?_update_self (change : Json → Json) :
    (r.update key change).get? key = (r.get? key).map change := by
  rw [update, Dictionary.get?_insertSome, if_pos rfl]
  cases r.get? key <;> rfl

theorem get?_update_of_ne {name : String} (h : name ≠ key) (change : Json → Json) :
    (r.update name change).get? key = r.get? key := by
  rw [update, Dictionary.get?_insertSome, if_neg h]

/-! ## Writing members -/

/-- Give the members that are there their values. -/
def writeMembers (base : Record) (ms : List (String × Option Json)) : Record :=
  ms.foldl (fun r m ↦ r.insertSome m.1 m.2) base

theorem get?_writeMembers_of_not_mem {ms : List (String × Option Json)}
    (h : key ∉ ms.map Prod.fst) : (r.writeMembers ms).get? key = r.get? key := by
  induction ms generalizing r with
  | nil => rfl
  | cons m ms ih =>
    rw [List.map_cons, List.mem_cons, not_or] at h
    have hrest : (r.writeMembers (m :: ms)).get? key = (r.insertSome m.1 m.2).get? key := ih h.2
    rw [hrest, Dictionary.get?_insertSome, if_neg (Ne.symm h.1)]

theorem get?_writeMembers_of_mem {ms : List (String × Option Json)}
    (hkeys : (ms.map Prod.fst).Nodup) {m : String × Option Json} (hm : m ∈ ms) :
    (r.writeMembers ms).get? m.1 = m.2.or (r.get? m.1) := by
  induction ms generalizing r with
  | nil => exact absurd hm List.not_mem_nil
  | cons m' ms ih =>
    rw [List.map_cons, List.nodup_cons] at hkeys
    rcases List.mem_cons.mp hm with rfl | hm
    · have hlast : (r.writeMembers (m :: ms)).get? m.1 = (r.insertSome m.1 m.2).get? m.1 :=
        get?_writeMembers_of_not_mem hkeys.1
      rw [hlast, Dictionary.get?_insertSome, if_pos rfl]
    · have hne : m'.1 ≠ m.1 := fun heq ↦ hkeys.1 (heq ▸ List.mem_map_of_mem hm)
      have hrest : (r.writeMembers (m' :: ms)).get? m.1 =
          m.2.or ((r.insertSome m'.1 m'.2).get? m.1) := ih hkeys.2 hm
      rw [hrest, Dictionary.get?_insertSome, if_neg hne]

theorem writeMembers_eq {ms : List (String × Option Json)} {whole : Record}
    (hkeys : (ms.map Prod.fst).Nodup) (hmembers : ∀ m ∈ ms, whole.get? m.1 = m.2.or (r.get? m.1))
    (hothers : ∀ key, key ∉ ms.map Prod.fst → whole.get? key = r.get? key) :
    r.writeMembers ms = whole := by
  refine Dictionary.ext_get? fun key ↦ ?_
  by_cases hkey : key ∈ ms.map Prod.fst
  · obtain ⟨m, hm, rfl⟩ := List.mem_map.mp hkey
    rw [get?_writeMembers_of_mem hkeys hm, hmembers m hm]
  · rw [get?_writeMembers_of_not_mem hkey, hothers key hkey]

end Record

/-! ## What a reader reads -/

namespace Reader

variable {α : Type} {reader : Reader α} {write : α → Json} {v : Json}

/-- A reader reads a value exactly where it is written in this way. -/
def Reads (reader : Reader α) (write : α → Json) : Prop := ∀ v a, reader v = .ok a ↔ v = write a

theorem reads_int64 : int64.Reads .ofInt64 := fun _ _ ↦ int64_eq_ok_iff

theorem reads_text : text.Reads .text := by
  intro v s
  cases v <;> simp [text]

theorem reads_integer {expected : String} {convert : Int → Option α} {value : α → Int}
    (hrange : ∀ a, Number.InRange (value a)) (h : ∀ n a, convert n = some a ↔ n = value a) :
    (integer expected convert).Reads fun a ↦ .number (.integer (value a) (hrange a)) := by
  intro v a
  rcases v with _ | _ | (⟨n, hn⟩ | _) | _ | _ | _
  case number.integer =>
    simp only [integer, Json.number.injEq, Number.integer.injEq, ← h]
    cases convert n <;> simp
  all_goals simp [integer]

theorem reads_uint16 : uint16.Reads fun n ↦ .number (.ofUInt32 n.toUInt32) := by
  refine reads_integer _ fun n k ↦ ?_
  rw [Option.ite_none_right_eq_some, Option.some.injEq, UInt16.toNat_toUInt32]
  constructor
  · rintro ⟨⟨hle, hlt⟩, rfl⟩
    rw [UInt16.toNat_ofNat_of_lt' (by omega), Int.toNat_of_nonneg hle]
  · rintro rfl
    rw [Int.toNat_natCast, UInt16.ofNat_toNat]
    exact ⟨⟨Int.natCast_nonneg _, Int.ofNat_lt.mpr k.toNat_lt⟩, rfl⟩

theorem reads_uint32 : uint32.Reads fun n ↦ .number (.ofUInt32 n) := by
  refine reads_integer _ fun n k ↦ ?_
  rw [Option.ite_none_right_eq_some, Option.some.injEq]
  constructor
  · rintro ⟨⟨hle, hlt⟩, rfl⟩
    rw [UInt32.toNat_ofNat_of_lt' (by omega), Int.toNat_of_nonneg hle]
  · rintro rfl
    rw [Int.toNat_natCast, UInt32.ofNat_toNat]
    exact ⟨⟨Int.natCast_nonneg _, Int.ofNat_lt.mpr k.toNat_lt⟩, rfl⟩

theorem items_eq_ok_iff (h : reader.Reads write) {values : List Json} {as : List α} :
    items reader values = .ok as ↔ values = as.map write := by
  induction values generalizing as with
  | nil => cases as <;> simp [items]
  | cons value values ih =>
    simp only [items, Except.bind_eq_ok_iff, h value, ih, Except.ok.injEq]
    constructor
    · rintro ⟨a, rfl, as, rfl, rfl⟩
      rfl
    · intro heq
      obtain ⟨a, as', rfl, rfl, rfl⟩ := List.map_eq_cons_iff.mp heq.symm
      exact ⟨a, rfl, as', rfl, rfl⟩

theorem reads_list (h : reader.Reads write) :
    (list reader).Reads fun as ↦ .list (as.map write) := by
  intro v as
  cases v with
  | list values => rw [list, items_eq_ok_iff h, Json.list.injEq]
  | null | bool | number | text | object => simp [list]

theorem option_of_isNull_eq_false (h : v.isNull = false) :
    option reader v = (reader v).map some := by
  cases v with
  | null => cases h
  | bool | number | text | list | object => rfl

theorem reads_texts : (list text).Reads .ofTexts := reads_list reads_text

theorem variant_eq_ok_iff {names : List String} {ofName? : String → Option α} {name : α → String}
    (h : ∀ s a, ofName? s = some a ↔ s = name a) {a : α} :
    variant names ofName? v = .ok a ↔ v.nameVariant = .text (name a) := by
  rcases v with _ | _ | _ | s | _ | members
  case text =>
    rw [variant, Json.nameVariant, Json.text.injEq, ← h]
    · cases hs : ofName? s <;> simp [hs]
    · intro _ members hobject
      cases hobject
  case object =>
    simp only [variant, Json.nameVariant]
    rcases members.entries with _ | ⟨⟨s, value⟩, _ | _⟩
    case cons.nil =>
      cases value with
      | null =>
        rw [Json.text.injEq, ← h]
        cases hs : ofName? s <;> simp [hs, bind, Except.bind]
      | bool | number | text | list | object =>
        cases hs : ofName? s <;> simp [hs, bind, Except.bind]
    all_goals simp
  all_goals simp [variant, Json.nameVariant]

end Reader

/-! ## Members that were read -/

namespace Record

variable {α : Type} {r : Record} {name : String} {reader : Reader α} {write : α → Json}

theorem required_eq_ok_iff (h : reader.Reads write) {a : α} :
    r.required name reader = .ok a ↔ r.get? name = some (write a) := by
  rw [required]
  cases r.get? name with
  | none => simp
  | some v => rw [h v, Option.some.injEq]

/-- A member that may be absent is read from what is left of its value, brought into the form in
which it is written. -/
theorem optional_eq_ok_iff {form : Json → Json} (h : ∀ v a, reader v = .ok a ↔ form v = write a)
    {a : Option α} : r.optional name reader = .ok a ↔
      ((r.get? name).filter fun v ↦ !v.isNull).map form = a.map write := by
  rw [optional]
  rcases r.get? name with _ | v
  · cases a <;> simp
  · cases hv : v.isNull with
    | true =>
      obtain rfl : v = .null := by cases v <;> first | rfl | cases hv
      cases a <;> simp [Reader.option, Json.isNull, Option.filter]
    | false =>
      have hkept : (some v).filter (fun v ↦ !v.isNull) = some v := by simp [Option.filter, hv]
      simp only [Reader.option_of_isNull_eq_false hv, hkept, Except.map_eq_ok_iff, h,
        Option.map_some]
      cases a <;> simp

end Record

/-! ## Sources -/

namespace DecodingPlugin

theorem ofName?_eq_some_iff {s : String} {p : DecodingPlugin} :
    ofName? s = some p ↔ s = p.name := by
  constructor
  · intro h
    exact (by simpa using List.find?_some h : p.name = s).symm
  · rintro rfl
    cases p <;> decide

theorem reader_eq_ok_iff {v : Json} {p : DecodingPlugin} :
    reader v = .ok p ↔ v.nameVariant = .text p.name :=
  Reader.variant_eq_ok_iff fun _ _ ↦ ofName?_eq_some_iff

end DecodingPlugin

namespace PostgresSource

variable {r : Record} {s : PostgresSource} {key : String}

/-- The members of a source as they are written, those that are absent included. -/
def written (s : PostgresSource) : List (String × Option Json) := [
  ("id", s.id.map .ofInt64),
  ("status", s.status.map .ofInt64),
  ("hostname", some (.text s.hostname)),
  ("port", some (.number (.ofUInt32 s.port.toUInt32))),
  ("database", some (.text s.database)),
  ("schema", some (.text s.schema)),
  ("username", some (.text s.username)),
  ("password", some (.text s.password)),
  ("tableNameList", some (.ofTexts s.tableNames)),
  ("primaryKey", s.primaryKey.map .text),
  ("decodingPluginName", s.plugin.map fun p ↦ .text p.name)]

theorem toRecord_eq_writeMembers (s : PostgresSource) :
    s.toRecord = s.base.writeMembers s.written :=
  rfl

theorem map_fst_written (s : PostgresSource) : s.written.map Prod.fst = members.map Prod.fst := rfl

/-- The members that a source may lack. -/
def optionalMembers : List String := ["id", "status", "primaryKey", "decodingPluginName"]

/-- The record of a source without the members that are null, and with the plugin by its name. -/
def normalized (r : Record) : Record :=
  (r.dropNulls optionalMembers).update "decodingPluginName" Json.nameVariant

theorem get?_normalized_of_not_mem (h : key ∉ optionalMembers) :
    (normalized r).get? key = r.get? key := by
  have hne : "decodingPluginName" ≠ key := fun heq ↦ h (heq ▸ by decide)
  rw [normalized, Record.get?_update_of_ne hne, Record.get?_dropNulls_of_not_mem h]

theorem get?_normalized_of_mem (h : key ∈ optionalMembers) (hne : "decodingPluginName" ≠ key) :
    (normalized r).get? key = (r.get? key).filter fun v ↦ !v.isNull := by
  rw [normalized, Record.get?_update_of_ne hne, Record.get?_dropNulls_of_mem h]

theorem get?_normalized_plugin : (normalized r).get? "decodingPluginName" =
    ((r.get? "decodingPluginName").filter fun v ↦ !v.isNull).map Json.nameVariant := by
  rw [normalized, Record.get?_update_self, Record.get?_dropNulls_of_mem (by decide)]

section Members

variable {α : Type} {reader : Reader α} {write : α → Json}

theorem required_iff (hkey : key ∉ optionalMembers) (h : reader.Reads write) {a : α} :
    r.required key reader = .ok a ↔ (normalized r).get? key = some (write a) := by
  rw [get?_normalized_of_not_mem hkey, Record.required_eq_ok_iff h]

theorem optional_iff (hkey : key ∈ optionalMembers) (hne : "decodingPluginName" ≠ key)
    (h : reader.Reads write) {a : Option α} :
    r.optional key reader = .ok a ↔ (normalized r).get? key = a.map write := by
  rw [get?_normalized_of_mem hkey hne, Record.optional_eq_ok_iff h, Option.map_id']

theorem plugin_iff {p : Option DecodingPlugin} :
    r.optional "decodingPluginName" DecodingPlugin.reader = .ok p ↔
      (normalized r).get? "decodingPluginName" = p.map fun p ↦ .text p.name := by
  rw [get?_normalized_plugin, Record.optional_eq_ok_iff fun _ _ ↦ DecodingPlugin.reader_eq_ok_iff]

end Members

/-- A record is read as a source exactly when its normal form has the members that are written of
the source, and the other members are what the source is based on. -/
theorem read_iff_normalized : read r = .ok s ↔
    (∀ m ∈ s.written, (normalized r).get? m.1 = m.2) ∧
      s.base = r.filterKeys fun key ↦ !isMember key := by
  rw [read_eq_ok_iff, optional_iff (by decide) (by decide) Reader.reads_int64,
    optional_iff (by decide) (by decide) Reader.reads_int64,
    required_iff (by decide) Reader.reads_text, required_iff (by decide) Reader.reads_uint16,
    required_iff (by decide) Reader.reads_text, required_iff (by decide) Reader.reads_text,
    required_iff (by decide) Reader.reads_text, required_iff (by decide) Reader.reads_text,
    required_iff (by decide) Reader.reads_texts,
    optional_iff (by decide) (by decide) Reader.reads_text, plugin_iff]
  simp only [written, List.forall_mem_cons, and_assoc]
  simp

theorem isMember_iff : isMember key = true ↔ key ∈ s.written.map Prod.fst := by
  rw [map_fst_written, isMember, List.lookup_isSome_iff, List.mem_map]
  exact exists_congr fun m ↦ and_congr_right fun _ ↦ beq_iff_eq.trans eq_comm

theorem not_isMember_iff : (!isMember key) = true ↔ key ∉ s.written.map Prod.fst := by
  rw [Bool.not_eq_true', ← isMember_iff, Bool.not_eq_true]

theorem nodup_written (s : PostgresSource) : (s.written.map Prod.fst).Nodup := by
  rw [map_fst_written]
  decide

theorem isMember_of_mem_optionalMembers : ∀ key ∈ optionalMembers, isMember key = true := by
  decide

theorem get?_normalized_of_not_isMember (h : (!isMember key) = true) :
    (normalized r).get? key = r.get? key := by
  refine get?_normalized_of_not_mem fun hkey ↦ ?_
  rw [isMember_of_mem_optionalMembers key hkey] at h
  cases h

theorem toRecord_of_read (h : read r = .ok s) : s.toRecord = normalized r := by
  obtain ⟨hmembers, hbase⟩ := read_iff_normalized.mp h
  rw [toRecord_eq_writeMembers, hbase]
  refine Record.writeMembers_eq s.nodup_written (fun m hm ↦ ?_) fun key hkey ↦ ?_
  · have hmember : m.1 ∈ s.written.map Prod.fst := List.mem_map_of_mem hm
    rw [Dictionary.get?_filterKeys, if_neg (mt not_isMember_iff.mp (not_not_intro hmember)),
      Option.or_none, hmembers m hm]
  · have hother := not_isMember_iff.mpr hkey
    rw [Dictionary.get?_filterKeys, if_pos hother, get?_normalized_of_not_isMember hother]

theorem normalized_normalized (r : Record) : normalized (normalized r) = normalized r := by
  refine Dictionary.ext_get? fun key ↦ ?_
  by_cases hkey : key ∈ optionalMembers
  · by_cases hplugin : "decodingPluginName" = key
    · subst hplugin
      rw [get?_normalized_plugin, get?_normalized_plugin]
      rcases r.get? "decodingPluginName" with _ | v
      · rfl
      · cases hv : v.isNull <;>
          simp [Option.filter, hv, Json.isNull_nameVariant, Json.nameVariant_nameVariant]
    · rw [get?_normalized_of_mem hkey hplugin, get?_normalized_of_mem hkey hplugin,
        Option.filter_filter]
      simp only [Bool.and_self]
  · rw [get?_normalized_of_not_mem hkey]

theorem read_toRecord (h : read r = .ok s) : read s.toRecord = .ok s := by
  rw [toRecord_of_read h]
  obtain ⟨hmembers, hbase⟩ := read_iff_normalized.mp h
  refine read_iff_normalized.mpr ⟨by rwa [normalized_normalized], ?_⟩
  rw [hbase]
  refine Dictionary.ext_get? fun key ↦ ?_
  rw [Dictionary.get?_filterKeys, Dictionary.get?_filterKeys]
  split
  case isTrue hother => rw [get?_normalized_of_not_isMember hother]
  case isFalse => rfl

end PostgresSource

/-! ## Accounts -/

namespace UserAccount

variable {r : Record} {u : UserAccount} {key : String}

/-- The members of an account as they are written, those that are absent included. -/
def written (u : UserAccount) : List (String × Option Json) := [
  ("id", u.id.map .ofInt64),
  ("type", some (.ofInt64 u.accountType)),
  ("username", some (.text u.username)),
  ("password", u.password.map .text),
  ("validDays", some (.number (.ofUInt32 u.validDays)))]

theorem toRecord_eq_writeMembers (u : UserAccount) :
    u.toRecord = Record.writeMembers .empty u.written := rfl

/-- The names of the members of an account. -/
def memberNames : List String := ["id", "type", "username", "password", "validDays"]

/-- The members that an account may lack. -/
def optionalMembers : List String := ["id", "password"]

/-- The members of an account in a record, without those that are null. -/
def normalized (r : Record) : Record :=
  Record.dropNulls (r.filterKeys memberNames.contains) optionalMembers

theorem map_fst_written (u : UserAccount) : u.written.map Prod.fst = memberNames := rfl

theorem get?_normalized_of_required (h : key ∈ memberNames) (hkey : key ∉ optionalMembers) :
    (normalized r).get? key = r.get? key := by
  rw [normalized, Record.get?_dropNulls_of_not_mem hkey, Dictionary.get?_filterKeys,
    if_pos (List.contains_iff_mem.mpr h)]

theorem get?_normalized_of_optional (h : key ∈ memberNames) (hkey : key ∈ optionalMembers) :
    (normalized r).get? key = (r.get? key).filter fun v ↦ !v.isNull := by
  rw [normalized, Record.get?_dropNulls_of_mem hkey, Dictionary.get?_filterKeys,
    if_pos (List.contains_iff_mem.mpr h)]

theorem get?_normalized_of_not_mem (h : key ∉ memberNames) : (normalized r).get? key = none := by
  have hkey : key ∉ optionalMembers := fun hkey ↦
    h ((by decide : ∀ key ∈ optionalMembers, key ∈ memberNames) key hkey)
  rw [normalized, Record.get?_dropNulls_of_not_mem hkey, Dictionary.get?_filterKeys,
    if_neg (mt List.contains_iff_mem.mp h)]

theorem read_iff_normalized : read r = .ok u ↔ ∀ m ∈ u.written, (normalized r).get? m.1 = m.2 := by
  rw [read_eq_ok_iff, Record.optional_eq_ok_iff Reader.reads_int64,
    Record.required_eq_ok_iff Reader.reads_int64, Record.required_eq_ok_iff Reader.reads_text,
    Record.optional_eq_ok_iff Reader.reads_text, Record.required_eq_ok_iff Reader.reads_uint32]
  simp only [written, List.forall_mem_cons]
  rw [get?_normalized_of_optional (by decide) (by decide),
    get?_normalized_of_required (by decide) (by decide),
    get?_normalized_of_required (by decide) (by decide),
    get?_normalized_of_optional (by decide) (by decide),
    get?_normalized_of_required (by decide) (by decide)]
  simp

theorem toRecord_of_read (h : read r = .ok u) : u.toRecord = normalized r := by
  have hkeys : (u.written.map Prod.fst).Nodup := by
    rw [map_fst_written]
    decide
  rw [toRecord_eq_writeMembers]
  refine Record.writeMembers_eq hkeys (fun m hm ↦ ?_) fun key hkey ↦ ?_
  · rw [Dictionary.get?_empty, Option.or_none, read_iff_normalized.mp h m hm]
  · rw [get?_normalized_of_not_mem hkey, Dictionary.get?_empty]

theorem normalized_normalized (r : Record) : normalized (normalized r) = normalized r := by
  refine Dictionary.ext_get? fun key ↦ ?_
  by_cases hname : key ∈ memberNames
  · by_cases hkey : key ∈ optionalMembers
    · rw [get?_normalized_of_optional hname hkey, get?_normalized_of_optional hname hkey,
        Option.filter_filter]
      simp only [Bool.and_self]
    · rw [get?_normalized_of_required hname hkey]
  · rw [get?_normalized_of_not_mem hname, get?_normalized_of_not_mem hname]

theorem read_toRecord (h : read r = .ok u) : read u.toRecord = .ok u := by
  rw [toRecord_of_read h]
  refine read_iff_normalized.mpr ?_
  rw [normalized_normalized]
  exact read_iff_normalized.mp h

end UserAccount

/--
A source is written as the record that it was read from, without the members that were null and with
its plugin by name; every key that it does not know keeps its value. An account is written as its
own members of the record, without those that were null. What was written is read as the same value.
-/
theorem toRecord_of_decodeWire :
    (∀ r s, PostgresSource.entityClass.decodeWire r = .ok s →
      s.toRecord = PostgresSource.normalized r ∧
        (∀ key, PostgresSource.isMember key = false → s.toRecord.get? key = r.get? key) ∧
        PostgresSource.entityClass.decodeWire s.toRecord = .ok s) ∧
    ∀ r u, UserAccount.entityClass.decodeWire r = .ok u →
      u.toRecord = UserAccount.normalized r ∧
        UserAccount.entityClass.decodeWire u.toRecord = .ok u := by
  simp only [EntityClass.decodeWire, Except.mapError_eq_ok_iff]
  refine ⟨fun r s h ↦ ⟨PostgresSource.toRecord_of_read h, fun key hkey ↦ ?_,
    PostgresSource.read_toRecord h⟩,
    fun r u h ↦ ⟨UserAccount.toRecord_of_read h, UserAccount.read_toRecord h⟩⟩
  rw [PostgresSource.toRecord_of_read h, PostgresSource.get?_normalized_of_not_isMember]
  rw [hkey]
  rfl

/-- A source of an unknown group, without an id and with its plugin as an object over null. -/
def PostgresSource.sampleWire : Record :=
  .ofList [("id", .null), ("inlongGroupId", .text "g1"), ("hostname", .text "pg.local"),
    ("port", .number (.integer 5433)), ("database", .text "shop"), ("schema", .text "public"),
    ("username", .text "reader"), ("password", .text ""), ("tableNameList", .ofTexts ["orders"]),
    ("decodingPluginName", .object (.cons "pgoutput" .null .nil nofun))]

/-- An account without a password that has a member of no account. -/
def UserAccount.sampleWire : Record :=
  .ofList [("id", .ofInt64 4), ("type", .ofInt64 0), ("username", .text "root"),
    ("password", .null), ("validDays", .number (.integer 365)), ("team", .text "ops")]

/-- The source is written without its id, with its group and with the name of its plugin, and the
account without its password and its team; both are read again. -/
theorem toRecord_of_sampleWire :
    (∃ s, PostgresSource.entityClass.decodeWire PostgresSource.sampleWire = .ok s ∧
      s.toRecord.get? "id" = none ∧
      s.toRecord.get? "decodingPluginName" = some (.text "pgoutput") ∧
      s.toRecord.get? "inlongGroupId" = some (.text "g1") ∧
      PostgresSource.entityClass.decodeWire s.toRecord = .ok s) ∧
    ∃ u, UserAccount.entityClass.decodeWire UserAccount.sampleWire = .ok u ∧
      u.toRecord.keys = ["id", "type", "username", "validDays"] ∧
      UserAccount.entityClass.decodeWire u.toRecord = .ok u := by
  obtain ⟨hsource, haccount⟩ := toRecord_of_decodeWire
  obtain ⟨s, hs⟩ : ∃ s, PostgresSource.entityClass.decodeWire PostgresSource.sampleWire = .ok s :=
    ⟨_, rfl⟩
  obtain ⟨u, hu⟩ : ∃ u, UserAccount.entityClass.decodeWire UserAccount.sampleWire = .ok u :=
    ⟨_, rfl⟩
  obtain ⟨hwritten, hother, hread⟩ := hsource _ s hs
  obtain ⟨hwritten', hread'⟩ := haccount _ u hu
  refine ⟨⟨s, hs, ?_, ?_, ?_, hread⟩, u, hu, ?_, hread'⟩
  · rw [hwritten]
    rfl
  · rw [hwritten]
    rfl
  · rw [hother "inlongGroupId" (by decide)]
    rfl
  · rw [hwritten']
    rfl

end EntityForms
