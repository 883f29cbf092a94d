import EntityForms.FieldTable
import EntityForms.Json.Text
import EntityForms.Localization

/-!
# List views

A list view has a column for every field that is declared as one. A cell shows the label of the
option that its value stands for, or the value itself, and nothing where there is no value.
-/

namespace EntityForms

/-- A column with its title resolved. -/
structure ListColumn where
  key : String
  title : String
  field : Field

/-- The text of a cell of this column. -/
def ListColumn.cellText (c : ListColumn) (row : Record) (l : Localizer) : String :=
  match row.get? c.key with
  | none | some .null => ""
  | some value => match c.field.choiceLabel value with
    | some label => l.display label
    | none => value.display

/-- The columns of a list view in the order of their declaration. -/
def FieldTable.listColumns (t : FieldTable) (l : Localizer) : List ListColumn :=
  t.columns.map fun f ↦ ⟨f.name, l.display f.labelKey, f⟩

end EntityForms
