import EntityForms.Proofs.Details.History
import EntityForms.Proofs.EditSession.Posting
import EntityForms.Proofs.Entity.Typing
import EntityForms.Proofs.Form.Coercion
import EntityForms.Proofs.Wire.Writing

/-!
# Who is an administrator

Whether an account is an administrator's is read off its type in three places. The details view
takes a number or a text that spells one; the control of the type searches its options; the backend
takes a number only. The first two agree on every value, since the options are integers
(`formIsAdmin_iff`). The third is stricter, but it reads what is sent, and the type is sent as the
form holds it: what is no number is refused, and a number is the same one for all three
(`exists_account_of_payload`). What can be saved has passed validation besides, so it has the type
of one of the two options.

Between two loads nothing but an input for the type changes who is an administrator, and what an
input changes it to is told by the option that is found for it (`formIsAdmin_stateAfter`).
-/

namespace EntityForms.UserAccount

open EditSession (State)

/-! ## The type of an account -/

/-- The option for the account of a regular user. -/
def regularChoice : Choice := ⟨"meta.Users.TypeUser", .integer regularType⟩

/-- The option for the account of an administrator. -/
def adminChoice : Choice := ⟨"meta.Users.TypeAdmin", .integer adminType⟩

variable {config : Config} {backend : Backend} {st : State} {form body : Record} {v : Json}

theorem get?_typeField (config : Config) :
    (session config).fields.get? "type" = some typeField := rfl

theorem typeField_mem_formFields (config : Config) (mode : Mode) :
    typeField ∈ (session config).fields.formFields mode :=
  List.mem_filter.mpr ⟨List.getElem_mem _, by cases mode <;> rfl⟩

theorem choices_typeField : typeField.choices = [regularChoice, adminChoice] := rfl

theorem choiceFor_typeField (v : Json) : typeField.choiceFor v =
    if v.looseInt64? = some regularType then some regularChoice
    else if v.looseInt64? = some adminType then some adminChoice
    else none := by
  have haccepts : ∀ n, (StaticValue.integer n).accepts v = (v.looseInt64? == some n) := fun n ↦ by
    cases v <;> rfl
  rw [Field.choiceFor, choices_typeField, List.find?_cons, List.find?_cons, List.find?_nil]
  simp only [regularChoice, adminChoice, haccepts]
  by_cases hregular : v.looseInt64? = some regularType
  · rw [if_pos hregular, beq_iff_eq.mpr hregular]
  · rw [if_neg hregular, beq_eq_false_iff_ne.mpr hregular]
    by_cases hadmin : v.looseInt64? = some adminType
    · rw [if_pos hadmin, beq_iff_eq.mpr hadmin]
    · rw [if_neg hadmin, beq_eq_false_iff_ne.mpr hadmin]

theorem choiceFor_typeField_eq_adminChoice_iff :
    typeField.choiceFor v = some adminChoice ↔ v.looseInt64? = some adminType := by
  rw [choiceFor_typeField]
  split
  case isTrue hregular =>
    rw [hregular]
    decide
  case isFalse => simp

theorem exists_choiceFor_typeField_iff : (∃ c, typeField.choiceFor v = some c) ↔
    v.looseInt64? = some regularType ∨ v.looseInt64? = some adminType := by
  rw [choiceFor_typeField]
  split
  case isTrue hregular => simp [hregular]
  case isFalse hregular => simp [hregular]

/-! ## What the view shows -/

/-- The view shows an administrator exactly when the administrator's option is found. -/
theorem formIsAdmin_iff :
    formIsAdmin form = true ↔ (form.get? "type").bind typeField.choiceFor = some adminChoice := by
  rw [formIsAdmin, beq_iff_eq, Record.int64?]
  cases form.get? "type" with
  | none => simp
  | some v => rw [Option.bind_some, Option.bind_some, choiceFor_typeField_eq_adminChoice_iff]

theorem formIsAdmin_congr {form' : Record} (h : form.get? "type" = form'.get? "type") :
    formIsAdmin form = formIsAdmin form' := by
  rw [formIsAdmin, Record.int64?, h, formIsAdmin, Record.int64?]

theorem formIsAdmin_setField (config : Config) (input : Json) (st : State) :
    formIsAdmin ((session config).setField "type" input st).state.form = true ↔
      typeField.choiceFor input = some adminChoice := by
  rw [formIsAdmin_iff, EditSession.get?_form_setField_self, get?_typeField, Option.map_some,
    Option.some_or, Option.bind_some, Field.choiceFor_coerce rfl]

theorem formIsAdmin_perform {op : Details.Operation} (hload : ∀ k, op ≠ .load k)
    (htype : ∀ input, op ≠ .setField "type" input) :
    formIsAdmin ((details (session config)).perform op backend st).state.form =
      formIsAdmin st.form := by
  cases op with
  | load k => exact absurd rfl (hload k)
  | setField name input =>
    have hname : name ≠ "type" := fun hname ↦ htype input (by rw [hname])
    exact formIsAdmin_congr ((session config).get?_form_setField_of_ne st hname input)
  | save =>
    have hform := ((details (session config)).save_frame backend st).2.2
    exact congrArg formIsAdmin hform
  | cancel => rfl

/-- Between loads the last input for the type decides. -/
theorem formIsAdmin_stateAfter {ops before after : List (Details.Operation × Backend)}
    {input : Json} (hops : ops = before ++ (.setField "type" input, backend) :: after)
    (hafter : ∀ step ∈ after, (∀ k, step.1 ≠ .load k) ∧ ∀ v, step.1 ≠ .setField "type" v) :
    formIsAdmin ((details (session config)).stateAfter ops st).form = true ↔
      typeField.choiceFor input = some adminChoice := by
  rw [hops, Details.stateAfter_append, Details.stateAfter_cons]
  rw [← formIsAdmin_setField config input ((details (session config)).stateAfter before st)]
  refine (details (session config)).stateAfter_induct (P := fun st' ↦ formIsAdmin st'.form = true ↔
    formIsAdmin ((session config).setField "type" input
      ((details (session config)).stateAfter before st)).state.form = true) ?_ Iff.rfl
  intro step hstep st' hst'
  rw [formIsAdmin_perform (hafter step hstep).1 (hafter step hstep).2]
  exact hst'

/-! ## What is sent -/

/-- A payload reads as an account that is an administrator's exactly when the form is. -/
theorem exists_account_of_payload (h : (session config).payload st = .ok body) :
    ∃ account, entityClass.decodeWire body = .ok account ∧
      st.form.get? "type" = some (.ofInt64 account.accountType) ∧
      account.isAdmin = formIsAdmin st.form := by
  obtain ⟨-, -, -, account, hread⟩ := EditSession.payload_eq_ok_iff.mp h
  -- the type is sent as the form holds it
  obtain ⟨wire, hwire, hget⟩ := EditSession.get?_payload h
  obtain rfl : st.form = wire := Except.ok.inj hwire
  have hsent : body.get? "type" = st.form.get? "type" := hget "type" (.inl (by decide))
  obtain ⟨-, htype, -⟩ := read_eq_ok_iff.mp (Except.mapError_eq_ok_iff.mp hread)
  rw [Record.required_eq_ok_iff Reader.reads_int64, hsent] at htype
  refine ⟨account, hread, htype, ?_⟩
  rw [isAdmin, formIsAdmin, Record.int64?, htype, Option.bind_some, Json.looseInt64?_ofInt64,
    Bool.eq_iff_iff, beq_iff_eq, beq_iff_eq, Option.some.injEq]

theorem accountType_of_save
    (h : ((details (session config)).save backend st).result = .ok body) {account : UserAccount}
    (htype : st.form.get? "type" = some (.ofInt64 account.accountType)) :
    account.accountType = regularType ∨ account.accountType = adminType := by
  obtain ⟨hvalid, -⟩ := EditSession.sent_of_submit (Details.submit_of_save h)
  have herror := FieldTable.validate_eq_nil_iff.mp hvalid typeField
    (typeField_mem_formFields config _)
  have hproblem := Option.map_eq_none_iff.mp herror
  have hname : typeField.name = "type" := rfl
  rw [hname, htype] at hproblem
  have hchoice := Field.exists_choiceFor_of_problem?_eq_none rfl rfl hproblem
  rwa [exists_choiceFor_typeField_iff, Json.looseInt64?_ofInt64, Option.some.injEq,
    Option.some.injEq] at hchoice

/--
Accounts in a run of their details view. At any time the view shows an administrator exactly when
the option that is found for the type of the form is the administrator's; after an input for the
type that is when this option is found for the input. A save that succeeds has sent an account of
one of the two types, and it is an administrator's exactly when the view showed one before the save.
That much is true of everything that is posted, also where the backend refuses it.
-/
theorem isAdmin_of_run (config : Config) (ops : List (Details.Operation × Backend)) :
    let view := details (session config)
    let st := view.stateAfter ops (session config).initial
    ((session config).fields.get? "type" = some typeField ∧ (formIsAdmin st.form = true ↔
      (st.form.get? "type").bind typeField.choiceFor = some adminChoice)) ∧
    (∀ before input backend after, ops = before ++ (.setField "type" input, backend) :: after →
      (∀ step ∈ after, (∀ k, step.1 ≠ .load k) ∧ ∀ v, step.1 ≠ .setField "type" v) →
      (formIsAdmin st.form = true ↔ typeField.choiceFor input = some adminChoice)) ∧
    (∀ backend payload, (view.save backend st).result = .ok payload →
      ∃ account, entityClass.decodeWire payload = .ok account ∧
        account.isAdmin = formIsAdmin st.form ∧
        (account.accountType = regularType ∨ account.accountType = adminType)) ∧
    ∀ op backend url body answer,
      .post url body answer ∈ (view.perform op backend st).trace →
      ∃ account, entityClass.decodeWire body = .ok account ∧
        account.isAdmin = formIsAdmin st.form := by
  intro view st
  refine ⟨⟨get?_typeField config, formIsAdmin_iff⟩, ?_, ?_, ?_⟩
  · intro before input backend after hops hafter
    exact formIsAdmin_stateAfter hops hafter
  · intro backend payload hsave
    have hpayload := EditSession.payload_of_submit (Details.submit_of_save hsave)
    obtain ⟨account, hread, htype, hadmin⟩ := exists_account_of_payload hpayload
    exact ⟨account, hread, hadmin, accountType_of_save hsave htype⟩
  · intro op backend url body answer hpost
    obtain ⟨-, hsubmit⟩ := Details.post_mem_perform hpost
    obtain ⟨-, -, hpayload, -⟩ := EditSession.post_mem_submit hsubmit
    obtain ⟨account, hread, -, hadmin⟩ := exists_account_of_payload hpayload
    exact ⟨account, hread, hadmin⟩

/-- A stored administrator is looked at, and then a new one is registered whose type is typed. -/
def sampleAdmin : List (Details.Operation × Backend) :=
  [.load (some 4), .load none, .setField "type" (.text " 0"), .setField "username" (.text "ops"),
    .setField "password" (.text "s3cret"), .setField "validDays" (.text "30")].map
    fun op ↦ (op, sampleBackend)

set_option maxRecDepth 8000 in
/-- The view shows an administrator, and the account that is saved is one. -/
theorem isAdmin_of_sampleAdmin :
    let view := details (session .standard)
    let st := view.stateAfter sampleAdmin (session .standard).initial
    typeField.choiceFor (.text " 0") = some adminChoice ∧ formIsAdmin st.form = true ∧
      ∃ payload account, (view.save sampleBackend st).result = .ok payload ∧
        entityClass.decodeWire payload = .ok account ∧ account.isAdmin = true := by
  intro view st
  have hchoice : typeField.choiceFor (.text " 0") = some adminChoice := by decide +kernel
  obtain ⟨-, hinput, hsaved, -⟩ := isAdmin_of_run .standard sampleAdmin
  have hshown : formIsAdmin st.form = true :=
    (hinput ([.load (some 4), .load none].map fun op ↦ (op, sampleBackend)) (.text " 0")
      sampleBackend _ rfl (by simp)).mpr hchoice
  have hsave : (view.save sampleBackend st).result = .ok (.ofList [("password", .text "s3cret"),
      ("type", .ofInt64 0), ("username", .text "ops"), ("validDays", .ofInt64 30)]) := by rfl
  obtain ⟨account, hread, hadmin, -⟩ := hsaved sampleBackend _ hsave
  exact ⟨hchoice, hshown, _, account, hsave, hread, hadmin.trans hshown⟩

end EntityForms.UserAccount
