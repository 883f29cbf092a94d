import EntityForms.Entity

/-!
# PostgreSQL sources

A PostgreSQL source says from which database and which tables changes are captured. Its table names
are a list on the wire and comma-separated text in the form. While the backend applies its
configuration the source has status 101, and then no field can be changed.
-/

namespace EntityForms

/-- The plugin that decodes the write-ahead log. -/
inductive DecodingPlugin where
  | decoderbufs | wal2json | wal2jsonRds | wal2jsonStreaming | wal2jsonRdsStreaming | pgoutput
  deriving DecidableEq, Repr

namespace DecodingPlugin

/-- All plugins, in the order in which they are offered. -/
def all : List DecodingPlugin :=
  [.decoderbufs, .wal2json, .wal2jsonRds, .wal2jsonStreaming, .wal2jsonRdsStreaming, .pgoutput]

/-- The name of a plugin. -/
def name : DecodingPlugin → String
  | .decoderbufs => "decoderbufs"
  | .wal2json => "wal2json"
  | .wal2jsonRds => "wal2json_rds"
  | .wal2jsonStreaming => "wal2json_streaming"
  | .wal2jsonRdsStreaming => "wal2json_rds_streaming"
  | .pgoutput => "pgoutput"

/-- The plugin of this name. -/
def ofName? (s : String) : Option DecodingPlugin := all.find? fun p ↦ p.name == s

/-- Read the name of a plugin. -/
def reader : Reader DecodingPlugin := .variant (all.map name) ofName?

end DecodingPlugin

namespace PostgresSource

/-- The status of a source whose configuration is being applied. -/
def lockedStatus : Int64 := 101

/-- Whether a record is of a source that cannot be changed. -/
def isLocked (r : Record) : Bool := r.int64? "status" == some lockedStatus

/-- Every control is disabled while the source is locked. -/
def renderOptions (r : Record) : RenderOptions := { disabled := isLocked r }

/-- A text field that has to be filled in. -/
def requiredText (name labelKey : String) : Field :=
  { name, labelKey, control := .input, rules := { required := true },
    dynamic := some renderOptions, isSynced := true }

/-- The fields of a source. -/
def fields : List Field := [
  { requiredText "hostname" "meta.Sources.PostgreSQL.Hostname" with isColumn := true },
  { name := "port", labelKey := "meta.Sources.PostgreSQL.Port", control := .inputNumber,
    rules := { required := true, min := some (.ofInt 1), max := some (.ofInt 65535) },
    initial := some (.integer 5432), dynamic := some renderOptions, isColumn := true,
    isSynced := true },
  requiredText "database" "meta.Sources.PostgreSQL.Database",
  requiredText "schema" "meta.Sources.PostgreSQL.SchemaName",
  { requiredText "username" "meta.Sources.PostgreSQL.Username" with isColumn := true },
  { requiredText "password" "meta.Sources.PostgreSQL.Password" with control := .password },
  { requiredText "tableNameList" "meta.Sources.PostgreSQL.TableName" with
    tooltipKey := some "meta.Sources.PostgreSQL.TableNameHelp" },
  { name := "primaryKey", labelKey := "meta.Sources.PostgreSQL.PrimaryKey", control := .input,
    dynamic := some renderOptions, isSynced := true },
  { name := "decodingPluginName", labelKey := "meta.Sources.PostgreSQL.decodingPluginName",
    control := .select, initial := some (.text "decoderbufs"),
    choices := DecodingPlugin.all.map fun p ↦ ⟨p.name, .text p.name⟩,
    dynamic := some renderOptions, isSynced := true }]

end PostgresSource

/-- A source as the backend exchanges it. -/
structure PostgresSource where
  id : Option Int64
  status : Option Int64
  hostname : String
  port : UInt16
  database : String
  schema : String
  username : String
  password : String
  tableNames : List String
  primaryKey : Option String
  plugin : Option DecodingPlugin
  /-- The members that are not those of a source, such as its group. -/
  base : Record

namespace PostgresSource

/-- The members that a source reads. -/
def members : Record.Members := [
  Record.member "id" (.option .int64),
  Record.member "status" (.option .int64),
  Record.member "hostname" .text,
  Record.member "port" .uint16,
  Record.member "database" .text,
  Record.member "schema" .text,
  Record.member "username" .text,
  Record.member "password" .text,
  Record.member "tableNameList" (.list .text),
  Record.member "primaryKey" (.option .text),
  Record.member "decodingPluginName" (.option DecodingPlugin.reader)]

/-- Whether a key names a member of a source. -/
def isMember (key : String) : Bool := (members.lookup key).isSome

/--
Read a source. A member of the wrong type is reported before one that is missing, the former in the
order of the keys and the latter in the order of the type.
-/
def read (r : Record) : Except ReadingError PostgresSource := do
  Record.checkMembers members r.entries
  let id ← r.optional "id" .int64
  let status ← r.optional "status" .int64
  let hostname ← r.required "hostname" .text
  let port ← r.required "port" .uint16
  let database ← r.required "database" .text
  let schema ← r.required "schema" .text
  let username ← r.required "username" .text
  let password ← r.required "password" .text
  let tableNames ← r.required "tableNameList" (.list .text)
  let primaryKey ← r.optional "primaryKey" .text
  let plugin ← r.optional "decodingPluginName" DecodingPlugin.reader
  let base := r.filterKeys fun key ↦ !isMember key
  .ok { id, status, hostname, port, database, schema, username, password, tableNames, primaryKey,
        plugin, base }

/-- The wire record of a source; absent members are left out. -/
def toRecord (s : PostgresSource) : Record :=
  s.base
    |>.insertSome "id" (s.id.map .ofInt64)
    |>.insertSome "status" (s.status.map .ofInt64)
    |>.insert "hostname" (.text s.hostname)
    |>.insert "port" (.number (.ofUInt32 s.port.toUInt32))
    |>.insert "database" (.text s.database)
    |>.insert "schema" (.text s.schema)
    |>.insert "username" (.text s.username)
    |>.insert "password" (.text s.password)
    |>.insert "tableNameList" (.ofTexts s.tableNames)
    |>.insertSome "primaryKey" (s.primaryKey.map .text)
    |>.insertSome "decodingPluginName" (s.plugin.map fun p ↦ .text p.name)

/-- The entity class of sources. -/
def entityClass : EntityClass PostgresSource where
  info := ⟨"a001", "PostgreSQLSource", "meta.Sources.PostgreSQL.Element",
    "meta.Sources.PostgreSQL.List"⟩
  fields := fields
  codec := ⟨[{ field := "tableNameList" }]⟩
  endpoints := ⟨"/source/get/\x7bid\x7d", "/source/save", "/source/update"⟩
  read := read

/-- The field table of a source. -/
def table : FieldTable :=
  .ofFields entityClass.info.name fields (by decide +kernel) (by decide +kernel)

/-- The declared fields can be used. -/
theorem table_entityClass : entityClass.table = .ok table :=
  FieldTable.build_eq_ok_iff.mpr ⟨rfl, rfl⟩

end PostgresSource

end EntityForms
