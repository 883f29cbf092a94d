import EntityForms.EditSession

/-!
# Runs of a session

The operations on a session as data, so that a run is a list: at each step an operation meets the
backend as it answers at that moment.
-/

namespace EntityForms.EditSession

/-- What comes of an operation, with another form of result. -/
def Outcome.map {α β : Type} (f : α → β) (o : Outcome α) : Outcome β where
  result := o.result.map f
  state := o.state
  trace := o.trace

/-- An operation on a session. -/
inductive Operation where
  | openRecord (id : Option Int64)
  | setField (name : String) (input : Json)
  | clearField (name : String)
  | resetForm
  | close
  | submit

/-- What an operation that succeeds gives back. -/
inductive Reply where
  | done
  /-- The value that was taken out of the form. -/
  | cleared (value : Option Json)
  /-- The record that was sent. -/
  | sent (payload : Record)

variable {Wire : Type} (s : EditSession Wire)

/-- Perform one operation. -/
def perform (op : Operation) (backend : Backend) (st : State) : Outcome Reply :=
  match op with
  | .openRecord id => (s.openRecord backend id st).map fun _ ↦ .done
  | .setField name input => (s.setField name input st).map fun _ ↦ .done
  | .clearField name =>
    let (value, st') := clearField name st
    { result := .ok (.cleared value), state := st' }
  | .resetForm => { result := .ok .done, state := s.resetForm st }
  | .close => { result := .ok .done, state := close st }
  | .submit => (s.submit backend st).map .sent

/-- The outcomes of a run, one for each operation. -/
def run : List (Operation × Backend) → State → List (Outcome Reply)
  | [], _ => []
  | (op, backend) :: rest, st =>
    let outcome := s.perform op backend st
    outcome :: run rest outcome.state

/-- The state after a run. -/
def stateAfter (ops : List (Operation × Backend)) (st : State) : State :=
  ops.foldl (fun st step ↦ (s.perform step.1 step.2 st).state) st

@[simp] theorem stateAfter_nil (st : State) : s.stateAfter [] st = st := rfl

@[simp] theorem stateAfter_cons (step : Operation × Backend) (ops : List (Operation × Backend))
    (st : State) :
    s.stateAfter (step :: ops) st = s.stateAfter ops (s.perform step.1 step.2 st).state := rfl

theorem stateAfter_append (ops₁ ops₂ : List (Operation × Backend)) (st : State) :
    s.stateAfter (ops₁ ++ ops₂) st = s.stateAfter ops₂ (s.stateAfter ops₁ st) :=
  List.foldl_append

end EntityForms.EditSession
