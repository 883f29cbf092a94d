import EntityForms.FieldTable
import EntityForms.Wire.Reading

/-!
# Status tables

A status is a code, either a number or a text; `1` and `"1"` are different codes. A table gives
each of its codes a label, a style and perhaps an icon, and finds a code by an index of positions. A
code that the table does not hold is shown by itself, in the default style.
-/

namespace EntityForms

/-- A status code. -/
inductive StatusValue where
  | number (n : Int64)
  | text (s : String)
  deriving DecidableEq

namespace StatusValue

/-- The code as it is shown. -/
def display : StatusValue → String
  | .number n => Text.writeInt n.toInt
  | .text s => s

/-- The code as a JSON value. -/
def toJson : StatusValue → Json
  | .number n => .ofInt64 n
  | .text s => .text s

/-- The code that a JSON value is. -/
def ofJson? : Json → Option StatusValue
  | .number n => n.int64?.map .number
  | .text s => some (.text s)
  | _ => none

/-- Read a code. -/
def reader : Reader StatusValue := fun value ↦
  match ofJson? value with
  | some code => .ok code
  | none => .error (.noVariant "StatusValue")

@[simp] theorem ofJson?_toJson (v : StatusValue) : ofJson? v.toJson = some v := by
  cases v <;> simp [toJson, ofJson?, Json.ofInt64]

end StatusValue

/-- The style of a status tag. -/
inductive StatusKind where
  | default | primary | success | warning | error
  deriving DecidableEq, Repr

namespace StatusKind

/-- A tag has the default style unless its status says otherwise. -/
instance : Inhabited StatusKind := ⟨.default⟩

/-- All styles. -/
def all : List StatusKind := [.default, .primary, .success, .warning, .error]

/-- The name of a style. -/
def name : StatusKind → String
  | .default => "default"
  | .primary => "primary"
  | .success => "success"
  | .warning => "warning"
  | .error => "error"

/-- The style of this name. -/
def ofName? (s : String) : Option StatusKind := all.find? fun k ↦ k.name == s

/-- Read the name of a style. -/
def reader : Reader StatusKind := .variant (all.map name) ofName?

end StatusKind

/-- One status of a table. -/
structure Status where
  value : StatusValue
  label : String
  kind : StatusKind := .default
  icon : Option String := none
  deriving DecidableEq

/-- A status as it is shown. -/
structure StatusTag where
  kind : StatusKind
  title : String
  icon : Option String
  deriving DecidableEq, Repr

/-- The tag of a status. -/
def Status.tag (s : Status) : StatusTag := ⟨s.kind, s.label, s.icon⟩

/-- Statuses with distinct codes, in the order of their declaration, with an index of the codes. -/
structure StatusTable where
  name : String
  entries : List Status
  /-- The position of each code among the entries. -/
  index : List (StatusValue × Nat)
  nodup_codes : (entries.map Status.value).Nodup
  indexed : Indexes (index.lookup ·) (entries.map Status.value)

namespace StatusTable

/-- Enter each code at its position and check that it does not occur before. -/
def enter (table : String) (index : List (StatusValue × Nat)) (position : Nat) :
    List Status → Except ConfigurationError (List (StatusValue × Nat))
  | [] => .ok index
  | s :: rest =>
    if (index.lookup s.value).isSome then .error (.duplicateStatus table s.value.display)
    else enter table ((s.value, position) :: index) (position + 1) rest

section Entering

variable {table : String} {index index' : List (StatusValue × Nat)} {before entries : List Status}
  {s : Status}

theorem indexes_cons (h : Indexes (index.lookup ·) (before.map Status.value))
    (hnew : s.value ∉ before.map Status.value) :
    Indexes (((s.value, before.length) :: index).lookup ·) ((before ++ [s]).map Status.value) := by
  rw [List.map_append]
  refine h.concat hnew fun v ↦ ?_
  rw [List.lookup_cons, List.length_map, BEq.comm]
  by_cases hv : s.value = v
  · simp [hv]
  · rw [beq_false_of_ne hv, if_neg hv]

theorem indexes_of_enter (before : List Status)
    (hindex : Indexes (index.lookup ·) (before.map Status.value))
    (hcodes : (before.map Status.value).Nodup)
    (h : enter table index before.length entries = .ok index') :
    ((before ++ entries).map Status.value).Nodup ∧
      Indexes (index'.lookup ·) ((before ++ entries).map Status.value) := by
  induction entries generalizing before index with
  | nil =>
    obtain rfl := Except.ok.inj h
    rw [List.append_nil]
    exact ⟨hcodes, hindex⟩
  | cons s entries ih =>
    rw [enter] at h
    split at h
    case isTrue => cases h
    case isFalse hfree =>
      have hnew := mt hindex.isSome_iff.mpr hfree
      rw [List.append_cons]
      refine ih _ (indexes_cons hindex hnew) (nodup_map_append_singleton.mpr ⟨hcodes, hnew⟩) ?_
      rwa [List.length_append, List.length_singleton]

theorem indexes_of_enter_nil (h : enter table [] 0 entries = .ok index) :
    (entries.map Status.value).Nodup ∧ Indexes (index.lookup ·) (entries.map Status.value) :=
  indexes_of_enter [] (.nil fun _ ↦ rfl) .nil h

end Entering

/-- The table of these statuses, if their codes are distinct. -/
def build (name : String) (entries : List Status) : Except ConfigurationError StatusTable :=
  match h : enter name [] 0 entries with
  | .ok index => .ok {
      name, entries, index
      nodup_codes := (indexes_of_enter_nil h).1
      indexed := (indexes_of_enter_nil h).2 }
  | .error e => .error e

theorem eq_of_build {name : String} {entries : List Status} {t : StatusTable}
    (h : build name entries = .ok t) : t.name = name ∧ t.entries = entries := by
  unfold build at h
  split at h
  · obtain rfl := Except.ok.inj h
    exact ⟨rfl, rfl⟩
  · cases h

theorem build_eq_error_iff {name : String} {entries : List Status} {e : ConfigurationError} :
    build name entries = .error e ↔ enter name [] 0 entries = .error e := by
  unfold build
  split
  case h_1 h => simp [h]
  case h_2 h => simp [h]

/-- The status of a code, found at its position. -/
def lookup (t : StatusTable) (value : StatusValue) : Option Status :=
  (t.index.lookup value).bind fun position ↦ t.entries[position]?

/-- The tag of a code. -/
def tag (t : StatusTable) (value : StatusValue) : StatusTag :=
  match t.lookup value with
  | some s => s.tag
  | none => ⟨.default, value.display, none⟩

end StatusTable

/-- The statuses of a request for approval. -/
def approvalStatuses : List Status := [
  { value := .text "COMPLETED", label := "已完成", kind := .success },
  { value := .text "PROCESSING", label := "待审批", kind := .warning },
  { value := .text "REJECTED", label := "已驳回", kind := .error },
  { value := .text "CANCELED", label := "已取消", icon := some "close-circle-filled" },
  { value := .text "TERMINATED", label := "已终止", kind := .error }]

/-- The index of the approval statuses. -/
def approvalIndex : List (StatusValue × Nat) := [
  (.text "TERMINATED", 4), (.text "CANCELED", 3), (.text "REJECTED", 2), (.text "PROCESSING", 1),
  (.text "COMPLETED", 0)]

theorem enter_approvalStatuses :
    StatusTable.enter "apply_status" [] 0 approvalStatuses = .ok approvalIndex := by
  rfl

/-- The status table of requests for approval. -/
def approvalTable : StatusTable where
  name := "apply_status"
  entries := approvalStatuses
  index := approvalIndex
  nodup_codes := (StatusTable.indexes_of_enter_nil enter_approvalStatuses).1
  indexed := (StatusTable.indexes_of_enter_nil enter_approvalStatuses).2

/-- The codes of the approval statuses are distinct. -/
theorem build_approvalStatuses :
    StatusTable.build "apply_status" approvalStatuses = .ok approvalTable := by
  rfl

end EntityForms
