import EntityForms.Proofs.Details.History
import EntityForms.Proofs.EditSession.Posting
import EntityForms.Proofs.EditSession.Trail
import Mathlib.Data.Bool.Basic

/-!
# One save for each load

A dialog that has saved its record is closed, and what is closed or has nothing loaded cannot be
saved. Only a load that succeeds makes it ready again. So a save is paid for by a load, and no load
pays twice.

The account is kept by one inequality: over any step, and thus over any run, the records that the
backend accepts, together with one if the dialog is ready at the end, are at most the loads that
succeeded, together with one if it was ready at the start (`accepted_add_ready_le`). Everything that
is said here about the order of loads and saves is read off from it (`saved_once_per_load`).
-/

namespace EntityForms

/-- A record that was sent and that the backend has accepted. -/
def Event.isAccepted : Event → Bool
  | .post _ _ (.ok _) => true
  | _ => false

namespace EditSession

variable {Wire : Type} (s : EditSession Wire) (backend : Backend) (st : State)

@[simp] theorem Outcome.isOk_map {α β : Type} (f : α → β) (o : Outcome α) :
    (o.map f).result.isOk = o.result.isOk := by
  rw [map]
  cases o.result <;> rfl

theorem countP_accepted_openRecord (id : Option Int64) :
    (s.openRecord backend id st).trace.countP Event.isAccepted = 0 := by
  rw [List.countP_eq_zero]
  intro e he haccepted
  cases e with
  | post => exact s.not_post_mem_openRecord backend st id he
  | get | log => cases haccepted

theorem countP_accepted_submit : (s.submit backend st).trace.countP Event.isAccepted =
    (s.submit backend st).result.isOk.toNat := by
  have hsub := s.submission_submit backend st
  generalize s.submit backend st = o at hsub ⊢
  cases hsub <;> rfl

end EditSession

namespace Performed

variable (x : Performed Details.Operation)

/-- Whether the operation was a load that succeeded. -/
def loads : Bool :=
  match x.op with
  | .load _ => x.outcome.result.isOk
  | _ => false

/-- Whether the operation was a save that succeeded. -/
def saves : Bool :=
  match x.op with
  | .save => x.outcome.result.isOk
  | _ => false

end Performed

namespace Details

open EditSession (Outcome Reply State)

variable {Wire : Type} (d : Details Wire)

/-- The trail of a run of a details view. -/
def trail (ops : List (Operation × Backend)) (st : State) : List (Performed Operation) :=
  trailOf d.perform ops st

/-! ## The account of one operation -/

variable (backend : Backend) (st : State)

variable {st} in
theorem save_of_not_ready (h : st.isReady = false) :
    ∃ e, d.save backend st = { result := .error e, state := st } := by
  rw [save]
  split
  case isTrue => exact ⟨_, rfl⟩
  case isFalse =>
    obtain ⟨e, he⟩ := d.session.submit_of_not_ready backend h
    rw [he]
    exact ⟨e, rfl⟩

theorem isOk_load_of_isReady (id : Option Int64)
    (h : (d.load backend id st).state.isReady = true) :
    (d.load backend id st).result.isOk = true := by
  rw [State.isReady, Bool.and_eq_true] at h
  rw [(d.loaded_load backend st id).mp h.2]
  rfl

theorem save_account : (d.save backend st).trace.countP Event.isAccepted =
      (d.save backend st).result.isOk.toNat ∧
    (d.save backend st).state.isReady = (st.isReady && !(d.save backend st).result.isOk) := by
  have hcount := d.session.countP_accepted_submit backend st
  have hready := d.session.isReady_submit backend st
  rw [save]
  split
  case isTrue => simp [Except.isOk, Except.toBool]
  case isFalse =>
    dsimp only
    split
    case h_1 body hbody =>
      refine ⟨hcount, ?_⟩
      rw [hbody]
      simp [EditSession.close, State.isReady, Except.isOk, Except.toBool]
    case h_2 e he =>
      refine ⟨hcount, ?_⟩
      rw [hready, he]
      simp [Except.isOk, Except.toBool]

/-- A step that has a record accepted or leaves the view ready is paid for by a load, or by the view
having been ready. -/
theorem step_account (op : Operation) :
    (d.perform op backend st).trace.countP Event.isAccepted +
        (d.perform op backend st).state.isReady.toNat ≤
      (Performed.loads ⟨op, st, d.perform op backend st⟩).toNat + st.isReady.toNat := by
  cases op with
  | load id =>
    have hcount := d.session.countP_accepted_openRecord backend st id
    rw [← (d.load_frame backend st id).2.1] at hcount
    have hready := d.isOk_load_of_isReady backend st id
    have hloads : Performed.loads ⟨.load id, st, d.perform (.load id) backend st⟩ =
        (d.load backend id st).result.isOk := EditSession.Outcome.isOk_map _ _
    change (d.load backend id st).trace.countP Event.isAccepted +
      (d.load backend id st).state.isReady.toNat ≤ _
    rw [hcount, hloads, Nat.zero_add]
    exact Nat.le_trans (Bool.toNat_le_toNat hready) (Nat.le_add_right _ _)
  | setField name input =>
    obtain ⟨-, hloaded, hvisible, htrace⟩ := d.session.setField_frame st name input
    simp [perform, EditSession.Outcome.map, State.isReady, hloaded, hvisible, htrace]
  | save =>
    obtain ⟨hcount, hready⟩ := d.save_account backend st
    change (d.save backend st).trace.countP Event.isAccepted +
      (d.save backend st).state.isReady.toNat ≤ 0 + st.isReady.toNat
    rw [hcount, hready]
    cases hst : st.isReady with
    | true => cases (d.save backend st).result.isOk <;> simp
    | false =>
      obtain ⟨e, he⟩ := d.save_of_not_ready backend hst
      rw [he]
      exact Nat.le_refl _
  | cancel => simp [perform, cancel, EditSession.close, State.isReady]

/-! ## The account of a run -/

/-- The same of a run: it has no more records accepted than it loads, but for one that the view may
have been ready for. -/
theorem accepted_add_ready_le (ops : List (Operation × Backend)) (st : State) :
    ((d.run ops st).flatMap Outcome.trace).countP Event.isAccepted +
        (d.stateAfter ops st).isReady.toNat ≤
      (d.trail ops st).countP Performed.loads + st.isReady.toNat := by
  induction ops generalizing st with
  | nil => simp [run, trail, trailOf]
  | cons step ops ih =>
    obtain ⟨op, backend⟩ := step
    have hstep := d.step_account backend st op
    have hrest := ih (d.perform op backend st).state
    rw [run, List.flatMap_cons, List.countP_append, stateAfter_cons, trail, trailOf,
      List.countP_cons, ← trail]
    dsimp only
    generalize Performed.loads ⟨op, st, d.perform op backend st⟩ = loaded at hstep ⊢
    cases loaded with
    | true =>
      rw [Bool.toNat_true] at hstep
      rw [if_pos rfl]
      omega
    | false =>
      rw [Bool.toNat_false] at hstep
      rw [if_neg Bool.false_ne_true]
      omega

variable {d backend st}

theorem not_ready_stateAfter {ops : List (Operation × Backend)} (h : st.isReady = false)
    (hloads : ∀ x ∈ d.trail ops st, x.loads = false) : (d.stateAfter ops st).isReady = false := by
  have haccount := d.accepted_add_ready_le ops st
  have hcount : (d.trail ops st).countP Performed.loads = 0 := by
    rw [List.countP_eq_zero]
    exact fun x hx ↦ Bool.eq_false_iff.mp (hloads x hx)
  rw [hcount, h, Bool.toNat_false] at haccount
  refine Bool.eq_false_iff.mpr fun hready ↦ ?_
  rw [hready, Bool.toNat_true] at haccount
  omega

/-! ## The order of loads and saves -/

theorem not_ready_of_closing {op : Operation}
    (h : Performed.saves ⟨op, st, d.perform op backend st⟩ = true ∨ op = .cancel) :
    (d.perform op backend st).state.isReady = false := by
  rcases h with hsaves | rfl
  · cases op with
    | save =>
      have hok : (d.save backend st).result.isOk = true :=
        (EditSession.Outcome.isOk_map Reply.sent (d.save backend st)).symm.trans hsaves
      change (d.save backend st).state.isReady = false
      rw [(d.save_account backend st).2, hok, Bool.not_true, Bool.and_false]
    | load | setField | cancel => cases hsaves
  · rfl

theorem refused_of_trail_eq {ops : List (Operation × Backend)} {x y : Performed Operation}
    {before between after : List (Performed Operation)}
    (htrail : d.trail ops st = before ++ x :: (between ++ y :: after))
    (hx : x.saves = true ∨ x.op = .cancel) (hloads : ∀ z ∈ between, z.loads = false)
    (hy : y.op = .save) :
    ∃ e, y.outcome = { result := .error e, state := y.before, trace := [] } := by
  obtain ⟨-, backend, ops₂, -, -, -, houtcome, hafter⟩ := exists_of_trailOf_eq htrail
  obtain ⟨ops₁, backend', -, -, rfl, hbefore, houtcome', -⟩ := exists_of_trailOf_eq hafter.symm
  have hclosed : x.outcome.state.isReady = false := by
    obtain ⟨op, st', outcome⟩ := x
    dsimp only at houtcome ⊢
    subst houtcome
    exact not_ready_of_closing hx
  have hready : y.before.isReady = false := by
    rw [hbefore]
    exact not_ready_stateAfter hclosed hloads
  obtain ⟨e, he⟩ := d.save_of_not_ready backend' hready
  refine ⟨e, ?_⟩
  rw [houtcome', hy, perform, he]
  rfl

/--
In any run of a details view, be it that of sources, that of accounts or another: between two saves
that succeed there is a load that succeeds; the backend accepts no more records than there are loads
that succeed; and a save that follows one that succeeded, or a cancel, is refused and does nothing
at all, unless a load has succeeded in between.
-/
theorem saved_once_per_load (d : Details Wire) (ops : List (Operation × Backend)) :
    (∀ before x between y after,
      d.trail ops d.session.initial = before ++ x :: (between ++ y :: after) →
      x.saves = true → y.saves = true → ∃ z ∈ between, z.loads = true) ∧
    ((d.run ops d.session.initial).flatMap Outcome.trace).countP Event.isAccepted ≤
      (d.trail ops d.session.initial).countP Performed.loads ∧
    (∀ before x between y after,
      d.trail ops d.session.initial = before ++ x :: (between ++ y :: after) →
      x.saves = true ∨ x.op = .cancel → (∀ z ∈ between, z.loads = false) → y.op = .save →
      ∃ e, y.outcome = { result := .error e, state := y.before, trace := [] }) := by
  refine ⟨?_, ?_, fun _ _ _ _ _ ↦ refused_of_trail_eq⟩
  · intro before x between y after htrail hx hy
    by_contra hnone
    have hloads : ∀ z ∈ between, z.loads = false := fun z hz ↦
      Bool.eq_false_iff.mpr fun hz' ↦ hnone ⟨z, hz, hz'⟩
    have hsave : y.op = .save := by
      unfold Performed.saves at hy
      split at hy
      · assumption
      · cases hy
    obtain ⟨e, he⟩ := refused_of_trail_eq htrail (.inl hx) hloads hsave
    rw [Performed.saves, hsave, he] at hy
    cases hy
  · have haccount := d.accepted_add_ready_le ops d.session.initial
    have hinitial : d.session.initial.isReady = false := rfl
    rw [hinitial, Bool.toNat_false] at haccount
    omega

end Details

namespace UserAccount

open EditSession (State)

/-- An account is registered. -/
def sampleRegistration : List (Details.Operation × Backend) :=
  [.load none, .setField "username" (.text "ann"), .setField "password" (.text "s3cret"),
    .setField "validDays" (.text "30")].map fun op ↦ (op, sampleBackend)

/-- Another account is loaded and renamed after one that does not exist. -/
def sampleVisit : List (Details.Operation × Backend) :=
  [.load (some 9), .load (some 4), .setField "username" (.text "admin")].map
    fun op ↦ (op, sampleBackend)

set_option maxRecDepth 8000 in
/-- Two accounts are saved, and there is a load that succeeds in between. -/
theorem loaded_between_sampleSaves :
    let view := details (session .standard)
    let registered := view.stateAfter sampleRegistration (session .standard).initial
    let x : Performed Details.Operation :=
      ⟨.save, registered, view.perform .save sampleBackend registered⟩
    let visited := view.stateAfter sampleVisit x.outcome.state
    let y : Performed Details.Operation :=
      ⟨.save, visited, view.perform .save sampleBackend visited⟩
    x.saves = true ∧ y.saves = true ∧
      ∃ z ∈ view.trail sampleVisit x.outcome.state, z.loads = true := by
  intro view registered x visited y
  have htrail : view.trail (sampleRegistration ++ (.save, sampleBackend) ::
      (sampleVisit ++ [(.save, sampleBackend)])) (session .standard).initial =
        view.trail sampleRegistration (session .standard).initial ++ x ::
          (view.trail sampleVisit x.outcome.state ++ [y]) := by rfl
  have hx : x.saves = true := by rfl
  have hy : y.saves = true := by
    subst y visited x registered view
    rfl
  exact ⟨hx, hy, (view.saved_once_per_load _).1 _ _ _ _ _ htrail hx hy⟩

end UserAccount

end EntityForms
