import EntityForms.Config
import EntityForms.Toml.Document
import EntityForms.Wire.Reading

/-!
# Reading the configuration

The configuration is a TOML document with a table `ui`, which may choose the locale, and a table
`api`, which names the base path; whatever else it holds is ignored. The values that the document
gives are read in its order, and the first that cannot be read is reported; after that a missing
table or member is. A table can also be given as an array of its members, in which case its length
is what may be wrong.
-/

namespace EntityForms

/-- Why a document is not a configuration. -/
inductive SchemaError where
  /-- A value is not of the type that its key asks for. -/
  | reading (cause : ReadingError)
  /-- A choice is neither a name nor a table. -/
  | notAChoice
  /-- A table that should name one choice is empty. -/
  | noChoice
  /-- A table that should name one choice has several entries. -/
  | severalChoices
  /-- A choice carries a value of this kind where it should carry an empty table. -/
  | choiceNotATable (kind : String)
  /-- A choice carries something. -/
  | choiceNotEmpty (container : String)
  deriving DecidableEq, Repr

/-- The message of a schema error. -/
def SchemaError.message : SchemaError → String
  | .reading cause => cause.message
  | .notAChoice => "wanted string or table"
  | .noChoice => "wanted exactly 1 element, found 0 elements"
  | .severalChoices => "wanted exactly 1 element, more than 1 element"
  | .choiceNotATable kind => "expected table, found " ++ kind
  | .choiceNotEmpty container => "expected empty " ++ container

/-- Why a configuration could not be loaded. -/
inductive ConfigError where
  /-- The file cannot be read as text. -/
  | unreadable
  /-- The text is not a TOML document. -/
  | syntaxError
  | schema (cause : SchemaError)
  deriving DecidableEq, Repr

/-- Numbers in messages about TOML values: never an exponent, always a point. -/
def Toml.layout : Layout where
  positional _ := true
  keepsPoint := true
  tie := .up

/-- What a reader finds in a TOML value; a date counts as a table. -/
def Toml.found : Toml → Found
  | .text s => .text s
  | .integer n => .integer n.toInt
  | .float x => .float (x.text Toml.layout)
  | .bool value => .bool value
  | .moment | .table .. => .map
  | .array _ | .tables _ => .sequence

namespace Config

/-- A value of another type than the expected one. -/
def wrongType {α : Type} (value : Toml) (expected : String) : Except SchemaError α :=
  .error (.reading (.invalidType value.found expected))

/-! ## The members -/

/-- Read a text. -/
def readText : Toml → Except SchemaError String
  | .text s => .ok s
  | other => wrongType other "a string"

/-- The locale of this language tag. -/
def readLocaleName (s : String) : Except SchemaError Locale :=
  match Locale.ofCode? s with
  | some l => .ok l
  | none => .error (.reading (.unknownVariant s (Locale.all.map Locale.code)))

/-- Check that the value which a choice carries is empty. -/
def checkEmpty : Toml → Except SchemaError Unit
  | .tables items => if items.isEmpty then .ok () else .error (.choiceNotEmpty "array")
  | .array items => if items.isEmpty then .ok () else .error (.choiceNotEmpty "table")
  | .table _ entries => if entries.isEmpty then .ok () else .error (.choiceNotEmpty "table")
  | .text _ => .error (.choiceNotATable "string")
  | .integer _ => .error (.choiceNotATable "integer")
  | .float _ => .error (.choiceNotATable "float")
  | .bool _ => .error (.choiceNotATable "boolean")
  | .moment => .error (.choiceNotATable "datetime")

/-- Read a locale: its language tag, as a text or as the one key of a table over something empty. -/
def readLocale : Toml → Except SchemaError Locale
  | .text s => readLocaleName s
  | .table _ [] => .error .noChoice
  | .table _ [(name, value)] => do
    let l ← readLocaleName name
    checkEmpty value
    .ok l
  | .table _ _ => .error .severalChoices
  | _ => .error .notAChoice

/-! ## The tables -/

/-- Read the first entry of a key, if there is one. -/
def readEntry {α : Type} (key : String) (reader : Toml → Except SchemaError α)
    (entries : Toml.Entries) : Except SchemaError (Option α) :=
  match entries.lookup key with
  | some value => (reader value).map some
  | none => .ok none

/-- The locale that the table `ui` chooses. -/
def readUi : Toml → Except SchemaError Locale
  | .table _ entries => do
    let l ← readEntry "locale" readLocale entries
    .ok (l.getD default)
  | .array (first :: _) => readLocale first
  | .tables (first :: _) => readLocale (.table .header first)
  | .array [] | .tables [] | .moment => .ok default
  | other => wrongType other "struct UiConfig"

/-- The base path that the table `api` names. -/
def readApi : Toml → Except SchemaError String
  | .table _ entries => do
    match ← readEntry "base_path" readText entries with
    | some path => .ok path
    | none => .error (.reading (.missingField "base_path"))
  | .array (first :: _) => readText first
  | .tables (first :: _) => readText (.table .header first)
  | .array [] | .tables [] =>
    .error (.reading (.invalidLength 0 "struct ApiConfig with 1 element"))
  | .moment => .error (.reading (.missingField "base_path"))
  | other => wrongType other "struct ApiConfig"

/-- Check the tables of a document in its order. -/
def checkEntries : Toml.Entries → Except SchemaError Unit
  | [] => .ok ()
  | (key, value) :: rest => do
    if key = "ui" then discard (readUi value)
    else if key = "api" then discard (readApi value)
    checkEntries rest

/-- Read the configuration from the entries of a document. -/
def ofEntries (entries : Toml.Entries) : Except SchemaError Config := do
  checkEntries entries
  let ui ← readEntry "ui" readUi entries
  let api ← readEntry "api" readApi entries
  match ui, api with
  | none, _ => .error (.reading (.missingField "ui"))
  | _, none => .error (.reading (.missingField "api"))
  | some locale, some basePath => .ok { locale, basePath }

/-- Read the configuration from the text of a document. -/
def ofToml (s : String) : Except ConfigError Config :=
  match Toml.parse? s with
  | some entries => (ofEntries entries).mapError .schema
  | none => .error .syntaxError

/-! ## Files -/

/-- What is found where a configuration file is looked for. -/
inductive File where
  | absent
  | directory
  | contents (bytes : ByteArray)

/-- Load the configuration; where there is no file the standard one holds. -/
def load : File → Except ConfigError Config
  | .absent => .ok standard
  | .directory => .error .unreadable
  | .contents bytes => match String.fromUTF8? bytes with
    | some s => ofToml s
    | none => .error .unreadable

end Config

end EntityForms
