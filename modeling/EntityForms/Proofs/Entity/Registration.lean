import EntityForms.Entity.Console
import EntityForms.Proofs.Codec.Fields
import Mathlib.Data.List.Nodup

/-!
# Registering one entity after another

Entities are registered in some order, and a registration may fail: its index is taken, its fields
do not make a table, or its codec transforms a field that is not declared. `Ending` lists what a
registration comes to. From the point of view of one index this is a single equation,
`get?_registration`: what is there stays, and where nothing is there the entity puts in what
`entryFor?` tells. A history is then read off index by index. An index holds the first entry that
was offered for it, and entities with different indexes do not meet, whatever their order
(`registerAll_holds_first_accepted`).
-/

namespace EntityForms.EntityDirectory

variable {d : EntityDirectory} {e : EntityDeclaration} {es : List EntityDeclaration} {i : String}

/-! ## One registration -/

/-- The ways in which a registration ends. -/
inductive Ending (d : EntityDirectory) (e : EntityDeclaration) :
    Except ConfigurationError Unit × EntityDirectory → Prop where
  | duplicate (htaken : d.contains e.info.index = true) :
    Ending d e (.error (.duplicateEntity e.info.index), d)
  | refused (hfree : d.contains e.info.index = false) {error : ConfigurationError}
      (haccept : accept e = .error error) : Ending d e (.error error, d)
  | accepted (hfree : d.contains e.info.index = false) {entry : RegisteredEntity}
      (haccept : accept e = .ok entry) : Ending d e (.ok (), d.insert e.info.index entry)

theorem registration_eq (d : EntityDirectory) (e : EntityDeclaration) :
    d.registration e =
      if d.contains e.info.index then (.error (.duplicateEntity e.info.index), d)
      else match accept e with
        | .ok entry => (.ok (), d.insert e.info.index entry)
        | .error error => (.error error, d) := by
  -- what is looked up first is the directory as it is
  change StateT.run (ExceptT.run (if d.contains e.info.index = true then
    throw (.duplicateEntity e.info.index)
    else (MonadExcept.ofExcept (accept e) : Action _) >>= _)) d = _
  split
  · rfl
  · cases accept e <;> rfl

theorem ending_registration (d : EntityDirectory) (e : EntityDeclaration) :
    Ending d e (d.registration e) := by
  rw [registration_eq]
  split
  case isTrue htaken => exact .duplicate htaken
  case isFalse hfree =>
    replace hfree : d.contains e.info.index = false := by simpa using hfree
    split
    case h_1 entry haccept => exact .accepted hfree haccept
    case h_2 error haccept => exact .refused hfree haccept

/-- What an entity offers to an index: its entry, if it belongs there and is accepted. -/
def entryFor? (i : String) (e : EntityDeclaration) : Option RegisteredEntity :=
  if e.info.index = i then (accept e).toOption else none

/-- What an index holds stays, and an index that holds nothing takes what the entity offers. -/
theorem get?_registration (d : EntityDirectory) (e : EntityDeclaration) (i : String) :
    (d.registration e).2.get? i = (d.get? i).or (entryFor? i e) := by
  have hending := ending_registration d e
  generalize d.registration e = outcome at hending ⊢
  unfold entryFor?
  cases hending with
  | duplicate htaken =>
    by_cases hi : e.info.index = i
    · subst hi
      obtain ⟨entry, hentry⟩ := Dictionary.contains_iff.mp htaken
      rw [hentry, Option.some_or]
    · rw [if_neg hi, Option.or_none]
  | refused _ haccept =>
    rw [haccept, Except.toOption, ite_self, Option.or_none]
  | accepted hfree haccept =>
    rw [Dictionary.get?_insert, haccept, Except.toOption]
    by_cases hi : e.info.index = i
    · subst hi
      rw [if_pos rfl, if_pos rfl, Dictionary.contains_eq_false_iff.mp hfree, Option.none_or]
    · rw [if_neg hi, if_neg hi, Option.or_none]

theorem registration_of_error {error : ConfigurationError}
    (h : (d.registration e).1 = .error error) : (d.registration e).2 = d := by
  have hending := ending_registration d e
  generalize d.registration e = outcome at h hending ⊢
  cases hending with
  | duplicate => rfl
  | refused => rfl
  | accepted => cases h

/-- What the entry of an entity holds: how the entity is called, the table that its fields make, and
its codec, which transforms fields of the table only. -/
structure IsEntryOf (e : EntityDeclaration) (entry : RegisteredEntity) : Prop where
  info : entry.info = e.info
  fields : e.table = .ok entry.fields
  codec : entry.codec = e.codec
  declared : ∀ t ∈ entry.codec.transforms, entry.fields.contains t.field = true

theorem isEntryOf_of_accept {entry : RegisteredEntity} (h : accept e = .ok entry) :
    IsEntryOf e entry := by
  obtain ⟨table, htable, hentry⟩ := Except.bind_eq_ok_iff.mp h
  split at hentry
  case h_1 => cases hentry
  case h_2 hstray =>
    obtain rfl := Except.ok.inj hentry
    exact ⟨rfl, htable, rfl, strayTransform?_eq_none_iff.mp hstray⟩

/-! ## A history -/

/-- A registration that was tried, with its result. -/
structure Attempt where
  entity : EntityDeclaration
  result : Except ConfigurationError Unit

/-- The directory after several registrations. -/
def registerAll (d : EntityDirectory) (es : List EntityDeclaration) : EntityDirectory :=
  es.foldl (fun d e ↦ (d.registration e).2) d

/-- The registrations of these entities, one after the other. -/
def attempts (d : EntityDirectory) : List EntityDeclaration → List Attempt
  | [] => []
  | e :: es => ⟨e, (d.registration e).1⟩ :: attempts (d.registration e).2 es

/-- The entity of the first registration under an index that succeeded. -/
def firstAccepted? (i : String) (history : List Attempt) : Option EntityDeclaration :=
  (history.find? fun a ↦ a.entity.info.index == i && a.result.isOk).map Attempt.entity

@[simp] theorem registerAll_nil (d : EntityDirectory) : d.registerAll [] = d := rfl

@[simp] theorem registerAll_cons (d : EntityDirectory) (e : EntityDeclaration)
    (es : List EntityDeclaration) :
    d.registerAll (e :: es) = (d.registration e).2.registerAll es := rfl

theorem registerAll_concat (d : EntityDirectory) (es : List EntityDeclaration)
    (e : EntityDeclaration) : d.registerAll (es ++ [e]) = ((d.registerAll es).registration e).2 :=
  List.foldl_concat _ d e es

theorem get?_registerAll (d : EntityDirectory) (es : List EntityDeclaration) (i : String) :
    (d.registerAll es).get? i = (d.get? i).or (es.findSome? (entryFor? i)) := by
  induction es generalizing d with
  | nil => rw [registerAll_nil, List.findSome?_nil, Option.or_none]
  | cons e es ih =>
    rw [registerAll_cons, ih, get?_registration, Option.or_assoc, List.findSome?_cons]
    cases entryFor? i e <;> rfl

theorem isOk_registration (hfree : d.get? i = none) (e : EntityDeclaration) :
    (e.info.index == i && (d.registration e).1.isOk) = (entryFor? i e).isSome := by
  by_cases hi : e.info.index = i
  · subst hi
    rw [registration_eq, Dictionary.contains_eq_false_iff.mpr hfree, entryFor?, if_pos rfl]
    cases accept e <;> simp [Except.isOk, Except.toBool, Except.toOption]
  · simp [entryFor?, hi]

theorem isEntryOf_of_entryFor? {entry : RegisteredEntity} (h : entryFor? i e = some entry) :
    IsEntryOf e entry := by
  rw [entryFor?] at h
  split at h
  case isFalse => cases h
  case isTrue =>
    cases haccept : accept e with
    | error =>
      rw [haccept] at h
      cases h
    | ok entry' =>
      rw [haccept] at h
      exact isEntryOf_of_accept (haccept.trans (congrArg _ (Option.some.inj h)))

/-- Where an index holds nothing at first, the first entry that is offered for it is the entry of
the first entity that is registered under it with success. -/
theorem rel_firstAccepted? (hfree : d.get? i = none) (es : List EntityDeclaration) :
    Option.Rel IsEntryOf (firstAccepted? i (d.attempts es)) (es.findSome? (entryFor? i)) := by
  induction es generalizing d with
  | nil => exact .none
  | cons e es ih =>
    have hnext := get?_registration d e i
    rw [hfree, Option.none_or] at hnext
    rw [attempts, firstAccepted?, List.find?_cons, isOk_registration hfree, List.findSome?_cons]
    cases hoffer : entryFor? i e with
    | some entry => exact .some (isEntryOf_of_entryFor? hoffer)
    | none => exact ih (hnext.trans hoffer)

/-! ## Different indexes -/

/-- Entities with different indexes do not meet in a directory. -/
theorem registration_comm {e e' : EntityDeclaration} (h : e.info.index ≠ e'.info.index)
    (d : EntityDirectory) :
    ((d.registration e).2.registration e').2 = ((d.registration e').2.registration e).2 := by
  refine Dictionary.ext_get? fun i ↦ ?_
  rw [get?_registration, get?_registration, get?_registration, get?_registration, Option.or_assoc,
    Option.or_assoc]
  congr 1
  by_cases hi : e.info.index = i
  · have hi' : e'.info.index ≠ i := fun h' ↦ h (hi.trans h'.symm)
    rw [show entryFor? i e' = none from if_neg hi', Option.or_none, Option.none_or]
  · rw [show entryFor? i e = none from if_neg hi, Option.or_none, Option.none_or]

theorem registerAll_perm {es' : List EntityDeclaration} (hperm : es.Perm es')
    (hindexes : (es.map fun e ↦ e.info.index).Nodup) (d : EntityDirectory) :
    d.registerAll es = d.registerAll es' := by
  refine hperm.foldl_eq' (fun e he e' he' d ↦ ?_) d
  by_cases h : e.info.index = e'.info.index
  · rw [List.inj_on_of_nodup_map hindexes he he' h]
  · exact registration_comm h d

theorem attempts_eq_map (hfree : ∀ e ∈ es, d.get? e.info.index = none)
    (hindexes : (es.map fun e ↦ e.info.index).Nodup) :
    d.attempts es = es.map fun e ↦ ⟨e, (accept e).map fun _ ↦ ()⟩ := by
  induction es generalizing d with
  | nil => rfl
  | cons e es ih =>
    obtain ⟨hhead, htail⟩ := List.forall_mem_cons.mp hfree
    rw [List.map_cons, List.nodup_cons] at hindexes
    have hresult : (d.registration e).1 = (accept e).map fun _ ↦ () := by
      rw [registration_eq, Dictionary.contains_eq_false_iff.mpr hhead]
      cases accept e <;> rfl
    have hrest : ∀ e' ∈ es, (d.registration e).2.get? e'.info.index = none := by
      intro e' he'
      have hne : e.info.index ≠ e'.info.index := fun h ↦
        hindexes.1 (h ▸ List.mem_map_of_mem he')
      rw [get?_registration, htail e' he', Option.none_or]
      exact if_neg hne
    rw [attempts, List.map_cons, hresult, ih hrest hindexes.2]

/--
Entities are registered in an empty directory, some with success and some without.

* A registration that fails leaves the directory as it was.
* An index holds the entry of the first entity that was registered under it with success, and
  nothing if there was none.
* The indexes are listed in increasing order, and they are those that hold an entry.
* Entities with different indexes can be registered in any order: each registration has the same
  result, and the directory is the same in the end.
-/
theorem registerAll_holds_first_accepted (es : List EntityDeclaration) :
    (∀ before e after error, es = before ++ e :: after →
      ((registerAll .empty before).registration e).1 = .error error →
      registerAll .empty (before ++ [e]) = registerAll .empty before) ∧
    (∀ i, Option.Rel IsEntryOf (firstAccepted? i (attempts .empty es))
      ((registerAll .empty es).get? i)) ∧
    (registerAll .empty es).indexes.Pairwise (· < ·) ∧
    (∀ i, i ∈ (registerAll .empty es).indexes ↔ ((registerAll .empty es).get? i).isSome = true) ∧
    ((es.map fun e ↦ e.info.index).Nodup → ∀ es', es.Perm es' →
      (attempts .empty es).Perm (attempts .empty es') ∧
        registerAll .empty es = registerAll .empty es') := by
  refine ⟨?_, ?_, Dictionary.pairwise_keys _, fun i ↦ Dictionary.mem_keys_iff, ?_⟩
  · intro before e after error _ herror
    rw [registerAll_concat, registration_of_error herror]
  · intro i
    rw [get?_registerAll, Dictionary.get?_empty, Option.none_or]
    exact rel_firstAccepted? (Dictionary.get?_empty i) es
  · intro hindexes es' hperm
    have hindexes' : (es'.map fun e ↦ e.info.index).Nodup := (hperm.map _).nodup_iff.mp hindexes
    refine ⟨?_, registerAll_perm hperm hindexes _⟩
    rw [attempts_eq_map (fun e _ ↦ Dictionary.get?_empty _) hindexes,
      attempts_eq_map (fun e _ ↦ Dictionary.get?_empty _) hindexes']
    exact hperm.map _

/-! ## A history with a failure -/

/-- Accounts with groups, which their codec takes for a list that they do not declare. -/
def strayAccounts : EntityDeclaration :=
  { UserAccount.entityClass.toEntityDeclaration with
    info := ⟨"x001", "GroupedAccount", "custom.Element", "custom.List"⟩
    codec := ⟨[{ field := "groups" }]⟩ }

/-- The entities of the console with an entity between them that is refused. -/
def sampleHistory : List EntityDeclaration :=
  [PostgresSource.entityClass.toEntityDeclaration, strayAccounts,
    UserAccount.entityClass.toEntityDeclaration]

set_option maxRecDepth 8000 in
/-- The entity in the middle leaves no trace, and the others can be registered in reverse. -/
theorem registerAll_of_sampleHistory :
    ((registerAll .empty (sampleHistory.take 1)).registration strayAccounts).1 =
        .error (.malformedField "GroupedAccount" "groups" .undeclaredTransform) ∧
      registerAll .empty (sampleHistory.take 2) = registerAll .empty (sampleHistory.take 1) ∧
      (attempts .empty sampleHistory).Perm (attempts .empty sampleHistory.reverse) ∧
      registerAll .empty sampleHistory = registerAll .empty sampleHistory.reverse := by
  have herror : ((registerAll .empty (sampleHistory.take 1)).registration strayAccounts).1 =
      .error (.malformedField "GroupedAccount" "groups" .undeclaredTransform) := by rfl
  obtain ⟨hfailure, -, -, -, horder⟩ := registerAll_holds_first_accepted sampleHistory
  exact ⟨herror, hfailure (sampleHistory.take 1) strayAccounts _ _ rfl herror,
    horder (by decide +kernel) _ sampleHistory.reverse_perm.symm⟩

end EntityForms.EntityDirectory
