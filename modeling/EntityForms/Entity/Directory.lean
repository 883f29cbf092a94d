import EntityForms.Entity

/-!
# The directory of entities

Entities are registered under their index, each at most once and only with a declaration that can
be used: its field table builds and its codec transforms declared fields only. Registering is an
action on the directory, and an action that fails does not undo what it did before it failed; the
directory is left as it was by a registration that fails because the directory is changed last.
-/

namespace EntityForms

/-- An entity whose declaration was accepted. -/
structure RegisteredEntity where
  info : EntityInfo
  fields : FieldTable
  codec : Codec
  /-- The codec transforms declared fields only. -/
  declared : ∀ t ∈ codec.transforms, fields.contains t.field = true

/-- The registered entities by index. -/
abbrev EntityDirectory := Dictionary RegisteredEntity

namespace EntityDirectory

/-- The indexes of the registered entities, in increasing order. -/
def indexes (d : EntityDirectory) : List String := d.keys

/-- An action on a directory. Where it fails, the changes that it has made until then stay. -/
abbrev Action := ExceptT ConfigurationError (StateM EntityDirectory)

/-- The first transform of a field that the table does not declare. -/
def strayTransform? (codec : Codec) (table : FieldTable) : Option ListTransform :=
  codec.transforms.find? fun t ↦ !table.contains t.field

theorem strayTransform?_eq_none_iff {codec : Codec} {table : FieldTable} :
    strayTransform? codec table = none ↔
      ∀ t ∈ codec.transforms, table.contains t.field = true := by
  simp [strayTransform?]

/-- Accept the declaration of an entity. -/
def accept (e : EntityDeclaration) : Except ConfigurationError RegisteredEntity := do
  let table ← e.table
  match h : strayTransform? e.codec table with
  | some t => .error (.malformedField e.info.name t.field .undeclaredTransform)
  | none => .ok ⟨e.info, table, e.codec, strayTransform?_eq_none_iff.mp h⟩

/-- Register an entity under its index. -/
def add (e : EntityDeclaration) : Action Unit := do
  if (← get).contains e.info.index then throw (.duplicateEntity e.info.index)
  let entity ← MonadExcept.ofExcept (accept e)
  modify fun d ↦ d.insert e.info.index entity

/-- What registering an entity comes to: its result, and the directory afterwards. -/
def registration (d : EntityDirectory) (e : EntityDeclaration) :
    Except ConfigurationError Unit × EntityDirectory :=
  (add e).run.run d

/-- The directory in which an entity has been registered. -/
def register (d : EntityDirectory) (e : EntityDeclaration) :
    Except ConfigurationError EntityDirectory :=
  (d.registration e).1.map fun _ ↦ (d.registration e).2

end EntityDirectory

end EntityForms
