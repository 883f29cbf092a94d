import EntityForms.Entity

/-!
# User accounts

An account of the console belongs to a regular user or to an administrator. Its password is asked
for when the account is registered and at no other time.
-/

namespace EntityForms

namespace UserAccount

/-- The account type of a regular user. -/
def regularType : Int64 := 1

/-- The account type of an administrator. -/
def adminType : Int64 := 0

/-- The fields of an account. -/
def fields : List Field := [
  { name := "type", labelKey := "meta.Users.Type", control := .radio,
    rules := { required := true }, initial := some (.integer regularType),
    choices := [⟨"meta.Users.TypeUser", .integer regularType⟩,
      ⟨"meta.Users.TypeAdmin", .integer adminType⟩],
    isColumn := true, isSynced := true },
  { name := "username", labelKey := "meta.Users.Name", control := .input,
    rules := { required := true }, isColumn := true, isSynced := true },
  { name := "password", labelKey := "meta.Users.Password", control := .password,
    rules := { required := true }, createOnly := true, isSynced := true },
  { name := "validDays", labelKey := "meta.Users.ValidDays", control := .inputNumber,
    rules := { required := true, min := some (.ofInt 1) }, suffix := some "天",
    isColumn := true, isSynced := true }]

end UserAccount

/-- An account as the backend exchanges it. -/
structure UserAccount where
  id : Option Int64
  accountType : Int64
  username : String
  password : Option String
  validDays : UInt32
  deriving DecidableEq

namespace UserAccount

/-- The members that an account reads; it ignores all others. -/
def members : Record.Members := [
  Record.member "id" (.option .int64),
  Record.member "type" .int64,
  Record.member "username" .text,
  Record.member "password" (.option .text),
  Record.member "validDays" .uint32]

/--
Read an account. A member of the wrong type is reported before one that is missing, the former in
the order of the keys and the latter in the order of the type.
-/
def read (r : Record) : Except ReadingError UserAccount := do
  Record.checkMembers members r.entries
  let id ← r.optional "id" .int64
  let accountType ← r.required "type" .int64
  let username ← r.required "username" .text
  let password ← r.optional "password" .text
  let validDays ← r.required "validDays" .uint32
  .ok { id, accountType, username, password, validDays }

/-- The wire record of an account; absent members are left out. -/
def toRecord (u : UserAccount) : Record :=
  (Dictionary.empty : Record)
    |>.insertSome "id" (u.id.map .ofInt64)
    |>.insert "type" (.ofInt64 u.accountType)
    |>.insert "username" (.text u.username)
    |>.insertSome "password" (u.password.map .text)
    |>.insert "validDays" (.number (.ofUInt32 u.validDays))

/-- Whether an account is an administrator's. -/
def isAdmin (u : UserAccount) : Bool := u.accountType == adminType

/-- The entity class of accounts. -/
def entityClass : EntityClass UserAccount where
  info := ⟨"sys_user", "UserAccount", "meta.Users.Element", "meta.Users.List"⟩
  fields := fields
  endpoints := ⟨"/user/get/\x7bid\x7d", "/user/register", "/user/update"⟩
  read := read

/-- The field table of an account. -/
def table : FieldTable :=
  .ofFields entityClass.info.name fields (by decide +kernel) (by decide +kernel)

/-- The declared fields can be used. -/
theorem table_entityClass : entityClass.table = .ok table :=
  FieldTable.build_eq_ok_iff.mpr ⟨rfl, rfl⟩

end UserAccount

end EntityForms
