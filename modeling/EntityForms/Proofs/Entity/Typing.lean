import EntityForms.Proofs.EditSession.Resubmission
import EntityForms.Proofs.EditSession.Typing

/-!
# Validation and the typed reading of a new record

Text that is typed into a new record is read four times before it is sent: by its control, by the
rules of its field, by its options and by the type of the wire record. The last reading tells a
whole number from one with a point, has a range of its own for the days of an account, and knows no
blank plugin. These are the gaps in which a form passes validation and is refused nevertheless, and
there are no others (`postedUnless_of_typing`).

For each entity, `IsFilledIn` is what typing and validation guarantee of the wire record, member by
member. The typed reading is then decided by the members that are left open.
-/

namespace EntityForms

open EditSession (Operation State)

/-! ## Sources -/

namespace PostgresSource

variable {config : Config} {backend : Backend} {st : State}

theorem exists_requiredText : ∀ name ∈ ["hostname", "database", "schema", "username", "password",
    "tableNameList"], ∃ f ∈ fields, f.name = name ∧ f.isPlainText = true ∧
      f.rules.required = true := by
  decide +kernel

theorem not_contains_id_status : ∀ name ∈ ["id", "status"], "tableNameList" ≠ name ∧
    table.contains name = false := by
  decide +kernel

theorem stringify_of_text {form : Record} {text : String}
    (h : form.get? "tableNameList" = some (.text text)) :
    entityClass.codec.stringify form =
      .ok (form.insert "tableNameList" (.ofTexts (Text.splitNames ',' text))) := by
  have hvalue : ListTransform.stringifyValue { field := "tableNameList" } form =
      .ok (.ofTexts (Text.splitNames ',' text)) := by
    rw [ListTransform.stringifyValue, ListShape.classify, h]
    rfl
  change Codec.replace _ _ [_] _ = _
  rw [Codec.replace, hvalue]
  rfl

/-- The field for the port. -/
def portField : Field := fields[1]

/-- The field for the primary key. -/
def primaryKeyField : Field := fields[7]

/-- The field for the plugin. -/
def pluginField : Field := fields[8]

/-! ### What is sent -/

/-- What a source may hold that passes validation but cannot be read: a port with a point, or a
blank plugin. -/
def HasGap (r : Record) : Prop :=
  (∃ x h, r.get? "port" = some (.number (.float x h))) ∨
    ∃ text, r.get? "decodingPluginName" = some (.text text) ∧ Text.allBlank text = true

/-- What is sent has a port of its range. -/
def HasPort (r : Record) : Prop :=
  ∃ port h, 1 ≤ port ∧ port ≤ 65535 ∧ r.get? "port" = some (.number (.integer port h))

/-- The wire record of a new source that was typed in and passes validation. -/
structure IsFilledIn (r : Record) : Prop where
  absent : ∀ name ∈ ["id", "status"], r.get? name = none
  texts : ∀ name ∈ ["hostname", "database", "schema", "username", "password"],
    ∃ text, r.get? name = some (.text text)
  tables : ∃ items, r.get? "tableNameList" = some (.ofTexts items)
  primaryKey : r.get? "primaryKey" = none ∨ ∃ text, r.get? "primaryKey" = some (.text text)
  port : ∃ n, r.get? "port" = some (.number n) ∧ ∀ k h, n = .integer k h → 1 ≤ k ∧ k ≤ 65535
  plugin : (∃ p : DecodingPlugin, r.get? "decodingPluginName" = some (.text p.name)) ∨
    ∃ text, r.get? "decodingPluginName" = some (.text text) ∧ Text.allBlank text = true

theorem IsFilledIn.has_port_iff {r : Record} (h : IsFilledIn r) :
    r.Has "port" .uint16 ↔ ¬ ∃ x h, r.get? "port" = some (.number (.float x h)) := by
  obtain ⟨n, hport, hrange⟩ := h.port
  rw [Record.has_iff_of_get? hport, hport, Reader.accepts_uint16_iff]
  cases n with
  | integer k hk =>
    obtain ⟨hmin, hmax⟩ := hrange k hk rfl
    exact iff_of_true ⟨k, hk, rfl, by omega, by omega⟩ (by simp)
  | float x hx => simp [hx]

theorem IsFilledIn.mayHave_plugin_iff {r : Record} (h : IsFilledIn r) :
    r.MayHave "decodingPluginName" DecodingPlugin.reader ↔
      ¬ ∃ text, r.get? "decodingPluginName" = some (.text text) ∧ Text.allBlank text = true := by
  rcases h.plugin with ⟨p, hp⟩ | ⟨text, htext, hblank⟩
  · rw [Record.mayHave_iff_of_get? hp, hp, DecodingPlugin.accepts_text_iff]
    exact iff_of_true (.inr ⟨p, rfl⟩) (by simp [DecodingPlugin.allBlank_name])
  · rw [Record.mayHave_iff_of_get? htext, DecodingPlugin.accepts_text_iff]
    refine iff_of_false ?_ (not_not_intro ⟨text, htext, hblank⟩)
    rintro (hnull | ⟨p, rfl⟩)
    · cases hnull
    · rw [p.allBlank_name] at hblank
      cases hblank

/-- Only the port and the plugin can be refused. -/
theorem IsFilledIn.exists_read_iff {r : Record} (h : IsFilledIn r) :
    (∃ source, read r = .ok source) ↔ ¬ HasGap r := by
  have habsent : ∀ name ∈ ["id", "status"], r.MayHave name .int64 := fun name hname ↦
    Record.mayHave_of_absent (h.absent name hname)
  have htext : ∀ name ∈ ["hostname", "database", "schema", "username", "password"],
      r.Has name .text := by
    intro name hname
    obtain ⟨text, htext⟩ := h.texts name hname
    exact Record.has_text htext
  have htables : r.Has "tableNameList" (.list .text) := by
    obtain ⟨items, hitems⟩ := h.tables
    exact (Record.has_iff_of_get? hitems).mpr (Reader.accepts_list_ofTexts items)
  have hkey : r.MayHave "primaryKey" .text := by
    rcases h.primaryKey with hnone | ⟨text, htext⟩
    · exact Record.mayHave_of_absent hnone
    · exact Record.mayHave_text htext
  rw [PostgresSource.exists_read_iff, h.has_port_iff, h.mayHave_plugin_iff, HasGap, not_or]
  simp only [habsent, htext, htables, hkey, List.mem_cons, true_or, or_true, true_and]

theorem IsFilledIn.hasPort {r : Record} (h : IsFilledIn r) (hgap : ¬ HasGap r) : HasPort r := by
  obtain ⟨n, hport, hrange⟩ := h.port
  cases n with
  | integer k hk => exact ⟨k, hk, (hrange k hk rfl).1, (hrange k hk rfl).2, hport⟩
  | float x hx => exact absurd (.inl ⟨x, hx, hport⟩) hgap

/-! ### What was typed -/

theorem exists_text_of_isTyped (h : (session config).IsTyped st)
    (hvalid : (session config).fields.validate st.mode st.form (session config).localizer = []) :
    ∀ name ∈ ["hostname", "database", "schema", "username", "password", "tableNameList"],
      ∃ text, st.form.get? name = some (.text text) := by
  intro name hname
  obtain ⟨f, hf, rfl, hplain, hrequired⟩ := exists_requiredText name hname
  exact h.exists_text hvalid hf hplain hrequired

theorem exists_port_of_isTyped (h : (session config).IsTyped st)
    (hvalid : (session config).fields.validate st.mode st.form (session config).localizer = []) :
    ∃ n, st.form.get? "port" = some (.number n) ∧
      ∀ k h, n = .integer k h → 1 ≤ k ∧ k ≤ 65535 := by
  have hmem : portField ∈ (session config).fields.fields := List.getElem_mem _
  obtain ⟨n, hn, hrange⟩ := h.exists_number hvalid hmem rfl rfl rfl
    fun w hw ↦ ⟨5432, (Option.some.inj hw).symm⟩
  refine ⟨n, hn, ?_⟩
  rintro k hk rfl
  exact ⟨Rules.le_of_checkNumber rfl (by decide) hrange,
    Rules.ge_of_checkNumber rfl (by decide) hrange⟩

theorem plugin_of_isTyped (h : (session config).IsTyped st)
    (hvalid : (session config).fields.validate st.mode st.form (session config).localizer = []) :
    (∃ p : DecodingPlugin, st.form.get? "decodingPluginName" = some (.text p.name)) ∨
      ∃ text, st.form.get? "decodingPluginName" = some (.text text) ∧
        Text.allBlank text = true := by
  have hmem : pluginField ∈ (session config).fields.fields := List.getElem_mem _
  have hchoices : pluginField.choicesDefect? = none := by decide +kernel
  rcases h.eq_choice hvalid hmem rfl hchoices rfl with ⟨c, hc, hchoice⟩ | ⟨-, hblank⟩
  · obtain ⟨p, -, rfl⟩ := List.mem_map.mp hc
    exact .inl ⟨p, hchoice⟩
  · exact .inr hblank

theorem primaryKey_of_isTyped (h : (session config).IsTyped st) :
    st.form.get? "primaryKey" = none ∨ ∃ text, st.form.get? "primaryKey" = some (.text text) := by
  have hmem : primaryKeyField ∈ (session config).fields.fields := List.getElem_mem _
  exact Field.eq_none_or_text_of_isTyped rfl (h.declared primaryKeyField hmem)

theorem isFilledIn_of_isTyped (h : (session config).IsTyped st)
    (hvalid : (session config).fields.validate st.mode st.form (session config).localizer = [])
    {body : Record} {items : List String}
    (hsent : ∀ key, body.get? key =
      if "tableNameList" = key then some (.ofTexts items) else st.form.get? key) :
    IsFilledIn body where
  absent := by
    intro name hname
    obtain ⟨hne, hundeclared⟩ := not_contains_id_status name hname
    rw [hsent, if_neg hne]
    exact h.undeclared name (FieldTable.get?_eq_none_iff.mpr hundeclared)
  texts := by
    intro name hname
    have hne : "tableNameList" ≠ name := by
      rintro rfl
      simp at hname
    rw [hsent, if_neg hne]
    exact exists_text_of_isTyped h hvalid name (List.mem_append_left ["tableNameList"] hname)
  tables := ⟨items, by rw [hsent, if_pos rfl]⟩
  primaryKey := by
    rw [hsent, if_neg (by decide)]
    exact primaryKey_of_isTyped h
  port := by
    rw [hsent, if_neg (by decide)]
    exact exists_port_of_isTyped h hvalid
  plugin := by
    rw [hsent, if_neg (by decide)]
    exact plugin_of_isTyped h hvalid

theorem postedUnless_of_isTyped (h : (session config).IsTyped st)
    (hvalid : (session config).fields.validate st.mode st.form (session config).localizer = []) :
    (session config).PostedUnless backend st (HasGap st.form) HasPort := by
  obtain ⟨tables, htables⟩ := exists_text_of_isTyped h hvalid "tableNameList" (by simp)
  have hwire := stringify_of_text htables
  have hsent : ∀ key, ((session config).fields.syncFilter
      (st.form.insert "tableNameList" (.ofTexts (Text.splitNames ',' tables)))).get? key =
        if "tableNameList" = key then some (.ofTexts (Text.splitNames ',' tables))
        else st.form.get? key := by
    intro key
    rw [FieldTable.get?_syncFilter, ← Dictionary.get?_insert,
      if_pos (FieldTable.all_isSynced_get? (fun f ↦ isSynced_of_mem_fields) key)]
  have hfilled := isFilledIn_of_isTyped h hvalid hsent
  have hgap : HasGap ((session config).fields.syncFilter
      (st.form.insert "tableNameList" (.ofTexts (Text.splitNames ',' tables)))) ↔
        HasGap st.form := by
    rw [HasGap, hsent, hsent, if_neg (by decide), if_neg (by decide), ← HasGap]
  rw [← hgap]
  exact h.postedUnless hvalid hwire hfilled.exists_read_iff hfilled.hasPort

end PostgresSource

/-! ## Accounts -/

namespace UserAccount

variable {config : Config} {backend : Backend} {st : State}

/-- The field for the type. -/
def typeField : Field := fields[0]

/-- The field for the days of validity. -/
def validDaysField : Field := fields[3]

theorem exists_requiredText : ∀ name ∈ ["username", "password"], ∃ f ∈ fields, f.name = name ∧
    f.isPlainText = true ∧ f.rules.required = true := by
  decide +kernel

theorem not_contains_id : table.contains "id" = false := by
  decide +kernel

/-- What an account may hold that passes validation but cannot be read: days with a point, or more
of them than a 32-bit number counts. -/
def HasGap (r : Record) : Prop :=
  (∃ x h, r.get? "validDays" = some (.number (.float x h))) ∨
    ∃ n h, r.get? "validDays" = some (.number (.integer n h)) ∧ 4294967295 < n

/-- What is sent has one of the declared types. -/
def HasType (r : Record) : Prop :=
  ∃ c ∈ typeField.choices, r.get? "type" = some c.value.toJson

/-- The wire record of a new account that was typed in and passes validation. -/
structure IsFilledIn (r : Record) : Prop where
  absent : r.get? "id" = none
  texts : ∀ name ∈ ["username", "password"], ∃ text, r.get? name = some (.text text)
  type : HasType r
  validDays : ∃ n, r.get? "validDays" = some (.number n) ∧ ∀ k h, n = .integer k h → 1 ≤ k

theorem IsFilledIn.has_validDays_iff {r : Record} (h : IsFilledIn r) :
    r.Has "validDays" .uint32 ↔ ¬ HasGap r := by
  obtain ⟨n, hdays, hrange⟩ := h.validDays
  rw [Record.has_iff_of_get? hdays, HasGap, hdays, Reader.accepts_uint32_iff]
  cases n with
  | integer k hk =>
    have hmin := hrange k hk rfl
    by_cases hlarge : 4294967295 < k
    · refine iff_of_false ?_ (not_not_intro (.inr ⟨k, hk, rfl, hlarge⟩))
      rintro ⟨n, _, hn, -, hlt⟩
      cases hn
      omega
    · refine iff_of_true ⟨k, hk, rfl, by omega, by omega⟩ ?_
      rintro (⟨x, _, hx⟩ | ⟨n, _, hn, hlt⟩)
      · cases hx
      · cases hn
        exact hlarge hlt
  | float x hx => simp [hx]

theorem IsFilledIn.exists_read_iff {r : Record} (h : IsFilledIn r) :
    (∃ account, read r = .ok account) ↔ ¬ HasGap r := by
  obtain ⟨username, husername⟩ := h.texts "username" (by simp)
  obtain ⟨password, hpassword⟩ := h.texts "password" (by simp)
  have htype : r.Has "type" .int64 := by
    obtain ⟨c, hc, htype⟩ := h.type
    have hinteger : ∀ c ∈ typeField.choices, ∃ n, c.value = .integer n := by
      simp [typeField, fields]
    obtain ⟨n, hn⟩ := hinteger c hc
    rw [hn] at htype
    exact ⟨_, htype, n, Reader.int64_eq_ok_iff.mpr rfl⟩
  rw [UserAccount.exists_read_iff, h.has_validDays_iff]
  exact ⟨fun hall ↦ hall.2.2.2.2, fun hgap ↦
    ⟨Record.mayHave_of_absent h.absent, htype, Record.has_text husername,
      Record.mayHave_text hpassword, hgap⟩⟩

theorem isFilledIn_of_isTyped (h : (session config).IsTyped st)
    (hvalid : (session config).fields.validate st.mode st.form (session config).localizer = []) :
    IsFilledIn st.form where
  absent := h.undeclared "id" (FieldTable.get?_eq_none_iff.mpr not_contains_id)
  texts := by
    intro name hname
    obtain ⟨f, hf, rfl, hplain, hrequired⟩ := exists_requiredText name hname
    exact h.exists_text hvalid hf hplain hrequired
  type := by
    have hmem : typeField ∈ (session config).fields.fields := List.getElem_mem _
    have hchoices : typeField.choicesDefect? = none := by decide +kernel
    rcases h.eq_choice hvalid hmem rfl hchoices rfl with hchoice | ⟨hoptional, -⟩
    · exact hchoice
    · cases hoptional
  validDays := by
    have hmem : validDaysField ∈ (session config).fields.fields := List.getElem_mem _
    have hinitial : validDaysField.initial = none := rfl
    obtain ⟨n, hn, hrange⟩ := h.exists_number hvalid hmem rfl rfl rfl (by simp [hinitial])
    refine ⟨n, hn, ?_⟩
    rintro k hk rfl
    exact Rules.le_of_checkNumber rfl (by decide) hrange

theorem postedUnless_of_isTyped (h : (session config).IsTyped st)
    (hvalid : (session config).fields.validate st.mode st.form (session config).localizer = []) :
    (session config).PostedUnless backend st (HasGap st.form) HasType := by
  have hfilled := isFilledIn_of_isTyped h hvalid
  have hsent : (session config).fields.syncFilter st.form = st.form := by
    have hsynced : ∀ f ∈ (session config).fields.fields, f.isSynced = true := by
      simp [session, table, FieldTable.ofFields, fields]
    refine Dictionary.ext_get? fun key ↦ ?_
    rw [FieldTable.get?_syncFilter, if_pos (FieldTable.all_isSynced_get? hsynced key)]
  refine h.postedUnless hvalid (Codec.identity_stringify st.form) ?_ ?_
  · rw [hsent]
    exact hfilled.exists_read_iff
  · rw [hsent]
    exact fun _ ↦ hfilled.type

end UserAccount

/-! ## Every run -/

/--
A new record is opened, whatever the session held before, texts are typed into its fields, and a
form that passes validation is submitted. A source is posted with a port between 1 and 65535, unless
its port has a point or its plugin is blank; an account is posted with one of the declared types,
unless its days of validity have a point or are more than 4294967295. In these cases, and in no
others, the typed reading refuses what was to be sent.
-/
theorem postedUnless_of_typing (config : Config) (ops : List (Operation × Backend))
    (hops : ∀ step ∈ ops, step.1.IsTyping) (backend backend' : Backend) :
    (∀ before st, (PostgresSource.session config).stateAfter
        ((.openRecord none, backend) :: ops) before = st →
      (PostgresSource.session config).fields.validate st.mode st.form
        (PostgresSource.session config).localizer = [] →
      (PostgresSource.session config).PostedUnless backend' st (PostgresSource.HasGap st.form)
        PostgresSource.HasPort) ∧
    ∀ before st, (UserAccount.session config).stateAfter
        ((.openRecord none, backend) :: ops) before = st →
      (UserAccount.session config).fields.validate st.mode st.form
        (UserAccount.session config).localizer = [] →
      (UserAccount.session config).PostedUnless backend' st (UserAccount.HasGap st.form)
        UserAccount.HasType := by
  constructor
  · rintro before st rfl hvalid
    exact PostgresSource.postedUnless_of_isTyped
      (EditSession.isTyped_stateAfter hops backend before) hvalid
  · rintro before st rfl hvalid
    exact UserAccount.postedUnless_of_isTyped
      (EditSession.isTyped_stateAfter hops backend before) hvalid

/-- Texts that are typed; each of the two entities takes those that are for its fields. -/
def sampleTexts : List (Operation × Backend) :=
  [("hostname", "pg.local"), ("port", " +05433"), ("database", "shop"), ("schema", "public"),
    ("username", "reader"), ("password", "secret"), ("tableNameList", "orders, items"),
    ("type", "0"), ("validDays", "30.0")].map
      fun e ↦ (.setField e.1 (.text e.2), PostgresSource.sampleBackend)

/-- The state of a session after the texts were typed. -/
def sampleTyped {Wire : Type} (s : EditSession Wire) : State :=
  s.stateAfter ((.openRecord none, PostgresSource.sampleBackend) :: sampleTexts) s.initial

set_option maxRecDepth 8000 in
/-- The source is posted with its port; the account is refused, for 30.0 is not read as a number of
days. -/
theorem postedUnless_of_sampleTexts :
    (∃ body url answer, PostgresSource.HasPort body ∧ .post url body answer ∈
      ((PostgresSource.session .standard).submit PostgresSource.sampleBackend
        (sampleTyped (PostgresSource.session .standard))).trace) ∧
    ∃ cause, ((UserAccount.session .standard).submit PostgresSource.sampleBackend
      (sampleTyped (UserAccount.session .standard))).result = .error (.codec cause) := by
  have hops : ∀ step ∈ sampleTexts, step.1.IsTyping := by
    simp [sampleTexts, EditSession.Operation.IsTyping]
  obtain ⟨hsource, haccount⟩ := postedUnless_of_typing .standard sampleTexts hops
    PostgresSource.sampleBackend PostgresSource.sampleBackend
  constructor
  · have hport : (sampleTyped (PostgresSource.session .standard)).form.get? "port" =
        some (.number (.integer 5433)) := by rfl
    have hplugin : (sampleTyped (PostgresSource.session .standard)).form.get?
        "decodingPluginName" = some (.text "decoderbufs") := by rfl
    have hgap : ¬ PostgresSource.HasGap (sampleTyped (PostgresSource.session .standard)).form := by
      rintro (⟨x, _, hx⟩ | ⟨text, htext, hblank⟩)
      · cases hport.symm.trans hx
      · cases hplugin.symm.trans htext
        exact absurd hblank (by decide)
    obtain ⟨wire, -, -, -, hposted⟩ := hsource _ _ rfl (by rfl)
    obtain ⟨hsent, answer, hpost⟩ := hposted hgap
    exact ⟨_, _, answer, hsent, hpost⟩
  · have hdays : (sampleTyped (UserAccount.session .standard)).form.get? "validDays" =
        some (.number (.float (.finite false 8444249301319680 1026))) := by rfl
    obtain ⟨wire, -, -, hrefused, -⟩ := haccount _ _ rfl (by rfl)
    exact hrefused (.inl ⟨_, _, hdays⟩)

end EntityForms
