import EntityForms.EditSession
import EntityForms.Entity.PostgresSource
import EntityForms.Entity.UserAccount

/-!
# Details views

A details view edits one record in a dialog: loading opens its session, saving submits it and
closes the dialog where that succeeds, cancelling closes it. A view may refuse to save records that
are locked, and it may have a secret field, which is taken out of the form as soon as an existing
record has been loaded, so that it is neither shown nor sent.
-/

namespace EntityForms

/-- The details view of an entity. -/
structure Details (Wire : Type) where
  session : EditSession Wire
  /-- Whether a form holds a record that cannot be saved. -/
  isLocked : Record → Bool := fun _ ↦ false
  /-- The field that is taken out of a loaded record. -/
  secret : Option String := none

namespace Details

open EditSession (State Outcome)

variable {Wire : Type} (d : Details Wire)

/-- Take the secret out of the form of an existing record. -/
def hideSecret (st : State) : State :=
  match st.mode, d.secret with
  | .edit, some field => (EditSession.clearField field st).2
  | _, _ => st

/-- Load the record of an id, or start a new one. -/
def load (backend : Backend) (id : Option Int64) (st : State) : Outcome Unit :=
  let opened := d.session.openRecord backend id st
  match opened.result with
  | .ok () => { opened with state := d.hideSecret opened.state }
  | .error _ => opened

/-- Save the record and close the dialog. -/
def save (backend : Backend) (st : State) : Outcome Record :=
  if d.isLocked st.form then { result := .error .locked, state := st }
  else
    let sent := d.session.submit backend st
    match sent.result with
    | .ok _ => { sent with state := EditSession.close sent.state }
    | .error _ => sent

/-- Close the dialog without saving. -/
def cancel (st : State) : State := EditSession.close st

end Details

/-! ## The two views of the console -/

/-- The session of PostgreSQL sources under a configuration. -/
def PostgresSource.session (config : Config) : EditSession PostgresSource where
  entity := entityClass
  config := config
  fields := table
  fields_eq := table_entityClass

/-- The session of accounts under a configuration. -/
def UserAccount.session (config : Config) : EditSession UserAccount where
  entity := entityClass
  config := config
  fields := table
  fields_eq := table_entityClass

/-- The details view of PostgreSQL sources; a locked source is not saved. -/
def PostgresSource.details (session : EditSession PostgresSource) : Details PostgresSource where
  session := session
  isLocked := isLocked

/-- The table names that are entered in the form of a source. -/
def PostgresSource.enteredTableNames (form : Record) : List String :=
  match form.get? "tableNameList" with
  | some (.text s) => Text.splitNames ',' s
  | _ => []

/-- The details view of accounts; the password of an existing account is not shown. -/
def UserAccount.details (session : EditSession UserAccount) : Details UserAccount where
  session := session
  secret := some "password"

/-- Whether the form of an account makes it an administrator's. -/
def UserAccount.formIsAdmin (form : Record) : Bool := form.int64? "type" == some adminType

end EntityForms
