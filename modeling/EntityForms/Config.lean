import EntityForms.Localization

/-!
# Configuration

The console has a locale, and the path under which its backend is reached.
-/

namespace EntityForms

/-- The configuration of the console. -/
structure Config where
  locale : Locale
  /-- Stands in front of every path of the backend. -/
  basePath : String
  deriving DecidableEq, Repr

namespace Config

/-- The configuration that holds where no other is given. -/
def standard : Config := ⟨.zhCN, "/api"⟩

instance : Inhabited Config := ⟨standard⟩

/-- The texts of the configured locale. -/
def localizer (c : Config) : Localizer := (Catalog.builtin c.locale).localizer

end Config

end EntityForms
