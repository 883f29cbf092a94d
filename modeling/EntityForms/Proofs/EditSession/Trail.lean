import EntityForms.EditSession.Run

/-!
# The trail of a run

A run leaves a trail: its operations, each with the state that it met and with what came of it. What
is said of a whole run (how often it has saved, when the form was last checked) is said of its
trail. A details view has runs of its own, so trails are defined for any kind of operation.
-/

namespace EntityForms

open EditSession (Outcome Reply State)

/-- An operation of a run, with the state that it met and with what came of it. -/
structure Performed (Op : Type) where
  op : Op
  before : State
  outcome : Outcome Reply

section

variable {Op : Type} (perform : Op → Backend → State → Outcome Reply)

/-- The trail of a run whose operations are performed in this way, the first one first. -/
def trailOf : List (Op × Backend) → State → List (Performed Op)
  | [], _ => []
  | (op, backend) :: ops, st =>
    ⟨op, st, perform op backend st⟩ :: trailOf ops (perform op backend st).state

theorem trailOf_append (ops₁ ops₂ : List (Op × Backend)) (st : State) :
    trailOf perform (ops₁ ++ ops₂) st = trailOf perform ops₁ st ++
      trailOf perform ops₂ (ops₁.foldl (fun st step ↦ (perform step.1 step.2 st).state) st) := by
  induction ops₁ generalizing st with
  | nil => rfl
  | cons step ops₁ ih => rw [List.cons_append, trailOf, trailOf, ih, List.cons_append]; rfl

variable {perform} in
/-- Where a trail is cut, the run is cut: what comes before is a trail, and what follows is the
trail of a run that begins where the operation has led. -/
theorem exists_of_trailOf_eq {ops : List (Op × Backend)} {st : State} {x : Performed Op}
    {before after : List (Performed Op)} (h : trailOf perform ops st = before ++ x :: after) :
    ∃ ops₁ backend ops₂, ops = ops₁ ++ (x.op, backend) :: ops₂ ∧
      before = trailOf perform ops₁ st ∧
      x.before = ops₁.foldl (fun st step ↦ (perform step.1 step.2 st).state) st ∧
      x.outcome = perform x.op backend x.before ∧
      after = trailOf perform ops₂ x.outcome.state := by
  induction ops generalizing st before with
  | nil => cases before <;> cases h
  | cons step ops ih =>
    obtain ⟨op, backend⟩ := step
    cases before with
    | nil =>
      obtain ⟨rfl, rfl⟩ := List.cons.inj h
      exact ⟨[], backend, ops, rfl, rfl, rfl, rfl, rfl⟩
    | cons y before =>
      obtain ⟨rfl, hrest⟩ := List.cons.inj h
      obtain ⟨ops₁, backend', ops₂, rfl, rfl, hbefore, houtcome, hafter⟩ := ih hrest
      exact ⟨(op, backend) :: ops₁, backend', ops₂, rfl, rfl, hbefore, houtcome, hafter⟩

variable {perform} in
theorem exists_of_mem_trailOf {ops : List (Op × Backend)} {st : State} {x : Performed Op}
    (h : x ∈ trailOf perform ops st) : ∃ backend, x.outcome = perform x.op backend x.before := by
  obtain ⟨before, after, htrail⟩ := List.append_of_mem h
  obtain ⟨-, backend, -, -, -, -, houtcome, -⟩ := exists_of_trailOf_eq htrail
  exact ⟨backend, houtcome⟩

end

namespace EditSession

variable {Wire : Type} (s : EditSession Wire)

/-- The trail of a run of a session. -/
def trail (ops : List (Operation × Backend)) (st : State) : List (Performed Operation) :=
  trailOf s.perform ops st

theorem trail_concat (ops : List (Operation × Backend)) (op : Operation) (backend : Backend)
    (st : State) : s.trail (ops ++ [(op, backend)]) st = s.trail ops st ++
      [⟨op, s.stateAfter ops st, s.perform op backend (s.stateAfter ops st)⟩] :=
  trailOf_append s.perform ops [(op, backend)] st

end EditSession

end EntityForms
