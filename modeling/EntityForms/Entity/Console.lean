import EntityForms.Entity.Directory
import EntityForms.Entity.PostgresSource
import EntityForms.Entity.UserAccount

/-!
# The entities of the console

The directory with every entity class that the console edits.
-/

namespace EntityForms.EntityDirectory

/-- The directory of all entities of the console. -/
def console : Except ConfigurationError EntityDirectory := do
  let sources ← register .empty PostgresSource.entityClass.toEntityDeclaration
  register sources UserAccount.entityClass.toEntityDeclaration

end EntityForms.EntityDirectory
