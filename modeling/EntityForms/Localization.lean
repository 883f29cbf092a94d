import EntityForms.Dictionary
import EntityForms.Text.Blank

/-!
# Localization

Declarations carry localization keys; a `Localizer` resolves them to texts, and a key that it does
not know stands for itself. There are two built-in catalogs, one for each locale, with the same
keys.
-/

namespace EntityForms

/-- A language of the user interface. -/
inductive Locale where
  /-- Simplified Chinese. -/
  | zhCN
  /-- American English. -/
  | enUS
  deriving DecidableEq, Repr

namespace Locale

/-- The locale that holds where none is chosen. -/
instance : Inhabited Locale := ⟨.zhCN⟩

/-- All locales. -/
def all : List Locale := [.zhCN, .enUS]

/-- The language tag of a locale. -/
def code : Locale → String
  | .zhCN => "zh-CN"
  | .enUS => "en-US"

/-- The locale with exactly this language tag. -/
def ofCode? (s : String) : Option Locale := all.find? fun l ↦ l.code == s

/-- A text as locales are compared: trimmed, in lower case, with hyphens for underscores. -/
def normalized (s : String) : String :=
  String.ofList ((Text.trim s.toList).map fun c ↦ if c = '_' then '-' else c.toLower)

/-- Why a text names no locale. -/
structure Unsupported where
  /-- The text in its normalized form. -/
  name : String
  deriving DecidableEq, Repr

/-- The message for a text that names no locale. -/
def Unsupported.message (e : Unsupported) : String := "Unsupported locale: " ++ e.name

/-- The locale that a user names, by language or by language tag. -/
def parse (s : String) : Except Unsupported Locale :=
  let name := normalized s
  if name = "zh" ∨ name = "zh-cn" then .ok .zhCN
  else if name = "en" ∨ name = "en-us" then .ok .enUS
  else .error ⟨name⟩

end Locale

/-- Resolves localization keys. -/
structure Localizer where
  /-- The text of a key, if it has one. -/
  lookup : String → Option String

/-- The text shown for a key: its own where it has one, and else the key. -/
def Localizer.display (l : Localizer) (key : String) : String := (l.lookup key).getD key

/-- The texts of one locale. -/
structure Catalog where
  locale : Locale
  texts : Dictionary String

namespace Catalog

/-- The catalog of these entries; a later text for the same key wins. -/
def ofList (locale : Locale) (entries : List (String × String)) : Catalog :=
  ⟨locale, .ofList entries⟩

/-- Resolve keys by this catalog. -/
def localizer (c : Catalog) : Localizer := ⟨c.texts.get?⟩

/-- The Chinese texts. -/
def zhCN : Catalog := .ofList .zhCN [
  ("basic.Create", "新建"),
  ("basic.Edit", "编辑"),
  ("basic.SaveSuccess", "保存成功"),
  ("meta.Sources.PostgreSQL.Element", "PostgreSQL 数据源"),
  ("meta.Sources.PostgreSQL.List", "PostgreSQL 数据源列表"),
  ("meta.Sources.PostgreSQL.Hostname", "服务器主机"),
  ("meta.Sources.PostgreSQL.Port", "端口"),
  ("meta.Sources.PostgreSQL.Database", "数据库名"),
  ("meta.Sources.PostgreSQL.SchemaName", "Schema 名称"),
  ("meta.Sources.PostgreSQL.Username", "用户名"),
  ("meta.Sources.PostgreSQL.Password", "密码"),
  ("meta.Sources.PostgreSQL.TableName", "表名"),
  ("meta.Sources.PostgreSQL.TableNameHelp", "多个表名请用英文逗号分隔"),
  ("meta.Sources.PostgreSQL.PrimaryKey", "主键"),
  ("meta.Sources.PostgreSQL.decodingPluginName", "解码插件名称"),
  ("meta.Users.Element", "用户"),
  ("meta.Users.List", "用户管理"),
  ("meta.Users.Type", "帐号类型"),
  ("meta.Users.Name", "用户名称"),
  ("meta.Users.Password", "用户密码"),
  ("meta.Users.ValidDays", "有效时长"),
  ("meta.Users.TypeUser", "普通用户"),
  ("meta.Users.TypeAdmin", "系统管理员")]

/-- The English texts. -/
def enUS : Catalog := .ofList .enUS [
  ("basic.Create", "Create"),
  ("basic.Edit", "Edit"),
  ("basic.SaveSuccess", "Saved successfully"),
  ("meta.Sources.PostgreSQL.Element", "PostgreSQL source"),
  ("meta.Sources.PostgreSQL.List", "PostgreSQL sources"),
  ("meta.Sources.PostgreSQL.Hostname", "Hostname"),
  ("meta.Sources.PostgreSQL.Port", "Port"),
  ("meta.Sources.PostgreSQL.Database", "Database"),
  ("meta.Sources.PostgreSQL.SchemaName", "Schema name"),
  ("meta.Sources.PostgreSQL.Username", "Username"),
  ("meta.Sources.PostgreSQL.Password", "Password"),
  ("meta.Sources.PostgreSQL.TableName", "Table name"),
  ("meta.Sources.PostgreSQL.TableNameHelp", "Separate multiple table names with commas"),
  ("meta.Sources.PostgreSQL.PrimaryKey", "Primary key"),
  ("meta.Sources.PostgreSQL.decodingPluginName", "Decoding plugin"),
  ("meta.Users.Element", "user"),
  ("meta.Users.List", "Users"),
  ("meta.Users.Type", "Account type"),
  ("meta.Users.Name", "Username"),
  ("meta.Users.Password", "Password"),
  ("meta.Users.ValidDays", "Valid for"),
  ("meta.Users.TypeUser", "Regular user"),
  ("meta.Users.TypeAdmin", "Administrator")]

/-- The built-in catalog of a locale. -/
def builtin : Locale → Catalog
  | .zhCN => zhCN
  | .enUS => enUS

end Catalog

end EntityForms
