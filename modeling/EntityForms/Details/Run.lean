import EntityForms.Details
import EntityForms.EditSession.Run

/-!
# Runs of a details view

The operations on a details view as data: loading a record, changing a field, saving and
cancelling. At each step of a run an operation meets the backend as it answers at that moment.
-/

namespace EntityForms.Details

open EditSession (Outcome Reply State)

/-- An operation on a details view. -/
inductive Operation where
  | load (id : Option Int64)
  | setField (name : String) (input : Json)
  | save
  | cancel

variable {Wire : Type} (d : Details Wire)

/-- Perform one operation. -/
def perform (op : Operation) (backend : Backend) (st : State) : Outcome Reply :=
  match op with
  | .load id => (d.load backend id st).map fun _ ↦ .done
  | .setField name input => (d.session.setField name input st).map fun _ ↦ .done
  | .save => (d.save backend st).map .sent
  | .cancel => { result := .ok .done, state := cancel st }

/-- The outcomes of a run, one for each operation. -/
def run : List (Operation × Backend) → State → List (Outcome Reply)
  | [], _ => []
  | (op, backend) :: rest, st =>
    let outcome := d.perform op backend st
    outcome :: run rest outcome.state

/-- The state after a run. -/
def stateAfter (ops : List (Operation × Backend)) (st : State) : State :=
  ops.foldl (fun st step ↦ (d.perform step.1 step.2 st).state) st

@[simp] theorem stateAfter_nil (st : State) : d.stateAfter [] st = st := rfl

@[simp] theorem stateAfter_cons (step : Operation × Backend) (ops : List (Operation × Backend))
    (st : State) :
    d.stateAfter (step :: ops) st = d.stateAfter ops (d.perform step.1 step.2 st).state := rfl

theorem stateAfter_append (ops₁ ops₂ : List (Operation × Backend)) (st : State) :
    d.stateAfter (ops₁ ++ ops₂) st = d.stateAfter ops₂ (d.stateAfter ops₁ st) :=
  List.foldl_append

end EntityForms.Details
