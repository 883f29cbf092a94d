import EntityForms.Entity.PostgresSource
import EntityForms.Entity.UserAccount
import EntityForms.Proofs.Wire.Members

/-!
# Which records are read

The first pass over a record only decides which fault is reported: what it tests the second pass
reads again. So a record is read as a value of its type exactly when each member of the type, looked
at for itself, is one that its reader accepts, where it has to be there at all.
-/

namespace EntityForms

/-! ## Readers -/

namespace Reader

variable {α : Type} {reader : Reader α} {v : Json}

/-- A value that the reader reads. -/
def Accepts (reader : Reader α) (v : Json) : Prop := ∃ a, reader v = .ok a

theorem accepts_text_iff : text.Accepts v ↔ ∃ s, v = .text s := by
  cases v <;> simp [Accepts, text]

theorem accepts_integer_iff {expected : String} {convert : Int → Option α} :
    (integer expected convert).Accepts v ↔
      ∃ n h, v = .number (.integer n h) ∧ (convert n).isSome = true := by
  cases v with
  | number m =>
    cases m with
    | integer n h => cases hn : convert n <;> simp [Accepts, integer, hn, h]
    | float x h => simp [Accepts, integer]
  | null | bool | text | list | object => simp [Accepts, integer]

theorem accepts_uint16_iff :
    uint16.Accepts v ↔ ∃ n h, v = .number (.integer n h) ∧ 0 ≤ n ∧ n < 65536 := by
  simp only [uint16, accepts_integer_iff, Option.isSome_ite]
  rfl

theorem accepts_uint32_iff :
    uint32.Accepts v ↔ ∃ n h, v = .number (.integer n h) ∧ 0 ≤ n ∧ n < 4294967296 := by
  simp only [uint32, accepts_integer_iff, Option.isSome_ite]
  rfl

theorem accepts_option_iff : (option reader).Accepts v ↔ v = .null ∨ reader.Accepts v := by
  have hmap : (∃ a, (reader v).map some = .ok a) ↔ reader.Accepts v := by
    rw [Accepts]
    cases reader v <;> simp [Except.map]
  cases v with
  | null => exact iff_of_true ⟨none, rfl⟩ (.inl rfl)
  | bool | number | text | list | object => rw [← hmap, or_iff_right nofun]; rfl

theorem accepts_variant_text_iff {names : List String} {ofName? : String → Option α} {s : String} :
    (variant names ofName?).Accepts (.text s) ↔ ∃ a, ofName? s = some a := by
  rw [Accepts, variant]
  cases hname : ofName? s <;> simp [hname]

theorem accepts_list_ofTexts (texts : List String) : (list text).Accepts (.ofTexts texts) := by
  refine ⟨texts, ?_⟩
  rw [Json.ofTexts, list]
  induction texts with
  | nil => rfl
  | cons s texts ih => rw [List.map_cons, items, ih]; rfl

end Reader

/-! ## Members -/

namespace Record

variable {α : Type} {r : Record} {name : String} {reader : Reader α}

/-- A member that has to be there is, and can be read. -/
def Has (r : Record) (name : String) (reader : Reader α) : Prop :=
  ∃ v, r.get? name = some v ∧ reader.Accepts v

/-- A member can be read, or is absent or null. -/
def MayHave (r : Record) (name : String) (reader : Reader α) : Prop :=
  ∀ v, r.get? name = some v → (reader.option).Accepts v

theorem has_iff_of_get? {v : Json} (h : r.get? name = some v) :
    r.Has name reader ↔ reader.Accepts v := by
  rw [Has, h]
  simp

theorem mayHave_iff_of_get? {v : Json} (h : r.get? name = some v) :
    r.MayHave name reader ↔ v = .null ∨ reader.Accepts v := by
  rw [MayHave, h, ← Reader.accepts_option_iff]
  simp

theorem has_text {text : String} (h : r.get? name = some (.text text)) : r.Has name .text :=
  (has_iff_of_get? h).mpr (Reader.accepts_text_iff.mpr ⟨text, rfl⟩)

theorem mayHave_text {text : String} (h : r.get? name = some (.text text)) :
    r.MayHave name .text :=
  (mayHave_iff_of_get? h).mpr (.inr (Reader.accepts_text_iff.mpr ⟨text, rfl⟩))

theorem mayHave_of_absent (h : r.get? name = none) : r.MayHave name reader := by
  intro v hv
  cases h.symm.trans hv

theorem exists_required_iff : (∃ a, r.required name reader = .ok a) ↔ r.Has name reader := by
  rw [Has]
  cases hget : r.get? name <;> simp [required, hget, Reader.Accepts]

theorem exists_optional_iff : (∃ a, r.optional name reader = .ok a) ↔ r.MayHave name reader := by
  rw [MayHave]
  cases hget : r.get? name <;> simp [optional, hget, Reader.Accepts]

theorem member_eq_ok_iff {v : Json} : (member name reader).2 v = .ok () ↔ reader.Accepts v := by
  rw [member, Reader.Accepts, Except.map_eq_ok_iff]
  simp

/-- The first pass has nothing to report where each member that is there can be read. -/
theorem checkMembers_of_forall {members : Members}
    (h : ∀ m ∈ members, ∀ v, r.get? m.1 = some v → m.2 v = .ok ()) :
    checkMembers members r.entries = .ok () := by
  refine checkMembers_eq_ok_iff.mpr fun key v test hv htest ↦ ?_
  obtain ⟨before, after, rfl, -⟩ := List.lookup_eq_some_iff.mp htest
  exact h (key, test) (List.mem_append_right _ List.mem_cons_self) v hv

theorem member_of_required {a : α} (h : r.required name reader = .ok a) :
    ∀ v, r.get? (member name reader).1 = some v → (member name reader).2 v = .ok () := by
  obtain ⟨v, hv, haccepts⟩ := exists_required_iff.mp ⟨a, h⟩
  intro v' hv'
  obtain rfl := Option.some.inj (hv.symm.trans hv')
  exact member_eq_ok_iff.mpr haccepts

theorem member_of_optional {a : Option α} (h : r.optional name reader = .ok a) :
    ∀ v, r.get? (member name reader.option).1 = some v →
      (member name reader.option).2 v = .ok () :=
  fun v hv ↦ member_eq_ok_iff.mpr (exists_optional_iff.mp ⟨a, h⟩ v hv)

end Record

/-! ## The two types -/

namespace DecodingPlugin

theorem exists_ofName?_iff {s : String} :
    (∃ p, ofName? s = some p) ↔ ∃ p : DecodingPlugin, p.name = s := by
  have hall : ∀ p : DecodingPlugin, p ∈ all := fun p ↦ by cases p <;> decide
  rw [← Option.isSome_iff_exists, ofName?, List.find?_isSome]
  simp [hall]

theorem accepts_text_iff {s : String} :
    reader.Accepts (.text s) ↔ ∃ p : DecodingPlugin, p.name = s := by
  rw [reader, Reader.accepts_variant_text_iff, exists_ofName?_iff]

theorem allBlank_name (p : DecodingPlugin) : Text.allBlank p.name = false := by
  cases p <;> decide

end DecodingPlugin

namespace PostgresSource

variable {r : Record} {s : PostgresSource}

/-- A source is read member by member. -/
theorem read_eq_ok_iff : read r = .ok s ↔
    r.optional "id" .int64 = .ok s.id ∧ r.optional "status" .int64 = .ok s.status ∧
      r.required "hostname" .text = .ok s.hostname ∧ r.required "port" .uint16 = .ok s.port ∧
      r.required "database" .text = .ok s.database ∧ r.required "schema" .text = .ok s.schema ∧
      r.required "username" .text = .ok s.username ∧
      r.required "password" .text = .ok s.password ∧
      r.required "tableNameList" (.list .text) = .ok s.tableNames ∧
      r.optional "primaryKey" .text = .ok s.primaryKey ∧
      r.optional "decodingPluginName" DecodingPlugin.reader = .ok s.plugin ∧
      s.base = r.filterKeys fun key ↦ !isMember key := by
  constructor
  · intro h
    simp only [read, Except.bind_eq_ok_iff] at h
    obtain ⟨-, -, _, hid, _, hstatus, _, hhostname, _, hport, _, hdatabase, _, hschema, _,
      husername, _, hpassword, _, htables, _, hkey, _, hplugin, hs⟩ := h
    obtain rfl := Except.ok.inj hs
    exact ⟨hid, hstatus, hhostname, hport, hdatabase, hschema, husername, hpassword, htables, hkey,
      hplugin, rfl⟩
  · rintro ⟨hid, hstatus, hhostname, hport, hdatabase, hschema, husername, hpassword, htables, hkey,
      hplugin, hbase⟩
    have hcheck : Record.checkMembers members r.entries = .ok () := by
      refine Record.checkMembers_of_forall ?_
      simp only [members, List.forall_mem_cons]
      exact ⟨Record.member_of_optional hid, Record.member_of_optional hstatus,
        Record.member_of_required hhostname, Record.member_of_required hport,
        Record.member_of_required hdatabase, Record.member_of_required hschema,
        Record.member_of_required husername, Record.member_of_required hpassword,
        Record.member_of_required htables, Record.member_of_optional hkey,
        Record.member_of_optional hplugin, fun _ h ↦ absurd h List.not_mem_nil⟩
    rw [read, hcheck, hid, hstatus, hhostname, hport, hdatabase, hschema, husername, hpassword,
      htables, hkey, hplugin, ← hbase]
    rfl

theorem read_insert_id (h : read r = .ok s) (k : Int64) :
    read (r.insert "id" (.ofInt64 k)) = .ok { s with id := some k } := by
  obtain ⟨-, hothers⟩ := read_eq_ok_iff.mp h
  have hid : Record.optional (r.insert "id" (.ofInt64 k)) "id" Reader.int64 = .ok (some k) := by
    rw [Record.optional_insert_self]
    exact Except.map_eq_ok_iff.mpr ⟨k, Reader.int64_eq_ok_iff.mpr rfl, rfl⟩
  have hbase : (r.insert "id" (.ofInt64 k)).filterKeys (fun key ↦ !isMember key) =
      r.filterKeys fun key ↦ !isMember key := by
    refine Dictionary.ext_get? fun key ↦ ?_
    rw [Dictionary.get?_filterKeys, Dictionary.get?_filterKeys]
    by_cases hkey : "id" = key
    · subst hkey
      rfl
    · rw [Dictionary.get?_insert_of_ne r hkey]
  -- every other member is read as before
  refine read_eq_ok_iff.mpr ⟨hid, ?_⟩
  simp (disch := decide) only [Record.required_insert_of_ne, Record.optional_insert_of_ne, hbase]
  exact hothers

theorem exists_read_iff : (∃ source, read r = .ok source) ↔
    r.MayHave "id" .int64 ∧ r.MayHave "status" .int64 ∧ r.Has "hostname" .text ∧
      r.Has "port" .uint16 ∧ r.Has "database" .text ∧ r.Has "schema" .text ∧
      r.Has "username" .text ∧ r.Has "password" .text ∧ r.Has "tableNameList" (.list .text) ∧
      r.MayHave "primaryKey" .text ∧ r.MayHave "decodingPluginName" DecodingPlugin.reader := by
  simp only [← Record.exists_required_iff, ← Record.exists_optional_iff, read_eq_ok_iff]
  constructor
  · rintro ⟨s, hid, hstatus, hhostname, hport, hdatabase, hschema, husername, hpassword, htables,
      hkey, hplugin, -⟩
    exact ⟨⟨_, hid⟩, ⟨_, hstatus⟩, ⟨_, hhostname⟩, ⟨_, hport⟩, ⟨_, hdatabase⟩, ⟨_, hschema⟩,
      ⟨_, husername⟩, ⟨_, hpassword⟩, ⟨_, htables⟩, ⟨_, hkey⟩, ⟨_, hplugin⟩⟩
  · rintro ⟨⟨id, hid⟩, ⟨status, hstatus⟩, ⟨hostname, hhostname⟩, ⟨port, hport⟩,
      ⟨database, hdatabase⟩, ⟨schema, hschema⟩, ⟨username, husername⟩, ⟨password, hpassword⟩,
      ⟨tables, htables⟩, ⟨key, hkey⟩, ⟨plugin, hplugin⟩⟩
    exact ⟨⟨id, status, hostname, port, database, schema, username, password, tables, key, plugin,
      _⟩, hid, hstatus, hhostname, hport, hdatabase, hschema, husername, hpassword, htables, hkey,
      hplugin, rfl⟩

end PostgresSource

namespace UserAccount

variable {r : Record} {u : UserAccount}

theorem read_eq_ok_iff : read r = .ok u ↔
    r.optional "id" .int64 = .ok u.id ∧ r.required "type" .int64 = .ok u.accountType ∧
      r.required "username" .text = .ok u.username ∧
      r.optional "password" .text = .ok u.password ∧
      r.required "validDays" .uint32 = .ok u.validDays := by
  constructor
  · intro h
    simp only [read, Except.bind_eq_ok_iff] at h
    obtain ⟨-, -, _, hid, _, htype, _, husername, _, hpassword, _, hdays, hu⟩ := h
    obtain rfl := Except.ok.inj hu
    exact ⟨hid, htype, husername, hpassword, hdays⟩
  · rintro ⟨hid, htype, husername, hpassword, hdays⟩
    have hcheck : Record.checkMembers members r.entries = .ok () := by
      refine Record.checkMembers_of_forall ?_
      simp only [members, List.forall_mem_cons]
      exact ⟨Record.member_of_optional hid, Record.member_of_required htype,
        Record.member_of_required husername, Record.member_of_optional hpassword,
        Record.member_of_required hdays, fun _ h ↦ absurd h List.not_mem_nil⟩
    rw [read, hcheck, hid, htype, husername, hpassword, hdays]
    rfl

theorem exists_read_iff : (∃ account, read r = .ok account) ↔
    r.MayHave "id" .int64 ∧ r.Has "type" .int64 ∧ r.Has "username" .text ∧
      r.MayHave "password" .text ∧ r.Has "validDays" .uint32 := by
  simp only [← Record.exists_required_iff, ← Record.exists_optional_iff, read_eq_ok_iff]
  constructor
  · rintro ⟨u, hid, htype, husername, hpassword, hdays⟩
    exact ⟨⟨_, hid⟩, ⟨_, htype⟩, ⟨_, husername⟩, ⟨_, hpassword⟩, ⟨_, hdays⟩⟩
  · rintro ⟨⟨id, hid⟩, ⟨type, htype⟩, ⟨username, husername⟩, ⟨password, hpassword⟩, ⟨days, hdays⟩⟩
    exact ⟨⟨id, type, username, password, days⟩, hid, htype, husername, hpassword, hdays⟩

end UserAccount

theorem EntityClass.exists_decodeWire_eq_error_iff {Wire : Type} {c : EntityClass Wire}
    {r : Record} :
    (∃ cause, c.decodeWire r = .error cause) ↔ ¬ ∃ typed, c.read r = .ok typed := by
  rw [decodeWire]
  cases c.read r with
  | ok typed => exact iff_of_false nofun (not_not_intro ⟨typed, rfl⟩)
  | error e => exact iff_of_true ⟨_, rfl⟩ nofun

end EntityForms
