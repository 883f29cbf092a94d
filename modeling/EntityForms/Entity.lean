import EntityForms.Codec
import EntityForms.FieldTable

/-!
# Entity classes

An entity class gathers all that forms, lists and sessions need to know about a kind of record: how
it is called, its fields, the transforms of its codec, the paths of the backend that serve it, and
the type its records have there.
-/

namespace EntityForms

/-- How an entity is called. -/
structure EntityInfo where
  /-- The short index that identifies the entity in the console. -/
  index : String
  name : String
  /-- The localization key of one element. -/
  elementKey : String
  /-- The localization key of the list. -/
  listKey : String
  deriving DecidableEq, Repr

/-- The paths of the backend that serve an entity. -/
structure Endpoints where
  /-- Where a record is read; `{id}` stands for its id. -/
  get : String
  create : String
  update : String
  deriving DecidableEq, Repr

namespace Endpoints

/-- Replace every `{id}` by the given characters. -/
def fillId (id : List Char) : List Char → List Char
  | '\x7b' :: 'i' :: 'd' :: '\x7d' :: rest => id ++ fillId id rest
  | c :: rest => c :: fillId id rest
  | [] => []

/-- The path at which the record of this id is read. -/
def getPath (e : Endpoints) (id : Int64) : String :=
  String.ofList (fillId (Text.writeInt id.toInt).toList e.get.toList)

/-- The path to which a record is saved: an existing one is updated, a new one created. -/
def savePath (e : Endpoints) : Option Int64 → String
  | some _ => e.update
  | none => e.create

end Endpoints

/-- What is declared about an entity, its typed records aside. -/
structure EntityDeclaration where
  info : EntityInfo
  fields : List Field
  codec : Codec := .identity
  endpoints : Endpoints

/-- The field table of an entity. -/
def EntityDeclaration.table (d : EntityDeclaration) : Except ConfigurationError FieldTable :=
  FieldTable.build d.info.name d.fields

/-- A declared entity whose records have the type `Wire` at the backend. -/
structure EntityClass (Wire : Type) extends EntityDeclaration where
  /-- Read a wire record. -/
  read : Record → Except ReadingError Wire

/-- Check that a wire record is one of the typed records of the entity. -/
def EntityClass.decodeWire {Wire : Type} (c : EntityClass Wire) (r : Record) :
    Except CodecError Wire :=
  (c.read r).mapError (.wireShape c.info.name)

end EntityForms
