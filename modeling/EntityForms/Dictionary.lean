/-!
# Dictionaries

A dictionary maps texts to values and lists its keys in increasing order, compared character by
character by code point; that is also the order of their UTF-8 bytes. There is exactly one
dictionary for each finite assignment of values to keys, so two dictionaries that look up alike are
equal (`Dictionary.ext_get?`). Every operation is described by what it does to `get?`.
-/

namespace EntityForms

universe u

variable {α : Type u}

/-- A finite assignment of values to texts, listed by increasing key. -/
structure Dictionary (α : Type u) where
  /-- The keys with their values. -/
  entries : List (String × α)
  /-- Keys increase strictly, so none occurs twice. -/
  increasing : entries.Pairwise fun a b ↦ a.1 < b.1

/-! ## Increasing lists of entries -/

namespace Entries

/-- The value that belongs to a key. -/
def get? (k : String) : List (String × α) → Option α
  | [] => none
  | (k', v) :: rest => if k' = k then some v else get? k rest

/-- Put an entry where its key belongs, in the place of an entry with the same key. -/
def insert (k : String) (v : α) : List (String × α) → List (String × α)
  | [] => [(k, v)]
  | (k', v') :: rest =>
    if k < k' then (k, v) :: (k', v') :: rest
    else if k = k' then (k, v) :: rest
    else (k', v') :: insert k v rest

theorem mem_insert {k : String} {v : α} {l : List (String × α)} {e : String × α}
    (h : e ∈ insert k v l) : e = (k, v) ∨ e ∈ l := by
  induction l with
  | nil => simpa [insert] using h
  | cons a rest ih =>
    obtain ⟨k', v'⟩ := a
    unfold insert at h
    split at h
    · simpa using h
    · split at h
      · rcases List.mem_cons.mp h with h | h
        · exact .inl h
        · exact .inr (List.mem_cons_of_mem _ h)
      · rcases List.mem_cons.mp h with h | h
        · exact .inr (h ▸ List.mem_cons_self)
        · exact (ih h).imp_right (List.mem_cons_of_mem _)

theorem lt_of_not_lt_of_ne {a b : String} (h : ¬ a < b) (hne : a ≠ b) : b < a :=
  Classical.byContradiction fun h' ↦
    hne (String.le_antisymm (String.not_lt.mp h') (String.not_lt.mp h))

theorem pairwise_insert {k : String} {v : α} {l : List (String × α)}
    (h : l.Pairwise fun a b ↦ a.1 < b.1) :
    (insert k v l).Pairwise fun a b ↦ a.1 < b.1 := by
  induction l with
  | nil => simp [insert]
  | cons a rest ih =>
    obtain ⟨k', v'⟩ := a
    obtain ⟨hhead, htail⟩ := List.pairwise_cons.mp h
    unfold insert
    split
    case isTrue hlt =>
      refine List.pairwise_cons.mpr ⟨fun e he ↦ ?_, h⟩
      rcases List.mem_cons.mp he with he | he
      · exact he ▸ hlt
      · exact String.lt_trans hlt (hhead e he)
    case isFalse hlt =>
      split
      case isTrue heq =>
        exact List.pairwise_cons.mpr ⟨fun e he ↦ heq ▸ hhead e he, htail⟩
      case isFalse hne =>
        refine List.pairwise_cons.mpr ⟨fun e he ↦ ?_, ih htail⟩
        rcases mem_insert he with he | he
        · exact he ▸ lt_of_not_lt_of_ne hlt hne
        · exact hhead e he

theorem get?_insert (k k' : String) (v : α) (l : List (String × α)) :
    get? k' (insert k v l) = if k = k' then some v else get? k' l := by
  induction l with
  | nil => simp [insert, get?]
  | cons a rest ih =>
    obtain ⟨k₁, v₁⟩ := a
    unfold insert
    split
    · simp [get?]
    · split
      case isTrue heq =>
        subst heq
        by_cases h : k = k' <;> simp [get?, h]
      case isFalse hne =>
        by_cases h : k₁ = k'
        · subst h
          simp [get?, hne]
        · simp [get?, h, ih]

theorem get?_eq_none_of_lt {k : String} {l : List (String × α)} (h : ∀ e ∈ l, k < e.1) :
    get? k l = none := by
  induction l with
  | nil => rfl
  | cons a rest ih =>
    have hne : a.1 ≠ k := (String.ne_of_lt (h a List.mem_cons_self)).symm
    simp [get?, hne, ih fun e he ↦ h e (List.mem_cons_of_mem _ he)]

theorem get?_filter (p : String → Bool) (k : String) (l : List (String × α)) :
    get? k (l.filter fun e ↦ p e.1) = if p k then get? k l else none := by
  induction l with
  | nil => simp [get?]
  | cons a rest ih =>
    obtain ⟨k₁, v₁⟩ := a
    by_cases hp : p k₁
    · rw [List.filter_cons_of_pos (by simpa using hp)]
      by_cases h : k₁ = k
      · subst h
        simp [get?, hp]
      · simp [get?, h, ih]
    · rw [List.filter_cons_of_neg (by simpa using hp), ih]
      by_cases h : k₁ = k
      · subst h
        simp [hp]
      · simp [get?, h]

/-- A key above all others goes to the end. -/
theorem insert_eq_append {k : String} {l : List (String × α)} (h : ∀ e ∈ l, e.1 < k) (v : α) :
    insert k v l = l ++ [(k, v)] := by
  induction l with
  | nil => rfl
  | cons a rest ih =>
    have ha : a.1 < k := h a List.mem_cons_self
    rw [insert, if_neg (String.lt_asymm ha), if_neg (String.ne_of_lt ha).symm,
      ih fun e he ↦ h e (List.mem_cons_of_mem _ he)]
    rfl

theorem get?_cons_self (k : String) (v : α) (l : List (String × α)) :
    get? k ((k, v) :: l) = some v := by
  simp [get?]

theorem get?_cons_of_ne {k k' : String} (h : k' ≠ k) (v : α) (l : List (String × α)) :
    get? k ((k', v) :: l) = get? k l := by
  simp [get?, h]

/-- An increasing list has no key before its first one. -/
theorem not_lt_of_get?_eq_some {k kb : String} {v vb : α} {m : List (String × α)}
    (hm : ((kb, vb) :: m).Pairwise fun a b ↦ a.1 < b.1) (h : get? k ((kb, vb) :: m) = some v) :
    ¬ k < kb := by
  intro hlt
  rw [get?_eq_none_of_lt] at h
  · cases h
  · intro e he
    rcases List.mem_cons.mp he with he | he
    · exact he ▸ hlt
    · exact String.lt_trans hlt ((List.pairwise_cons.mp hm).1 e he)

/-- Increasing lists that look up alike are equal. -/
theorem ext_get? {l m : List (String × α)} (hl : l.Pairwise fun a b ↦ a.1 < b.1)
    (hm : m.Pairwise fun a b ↦ a.1 < b.1) (h : ∀ k, get? k l = get? k m) : l = m := by
  induction l generalizing m with
  | nil =>
    cases m with
    | nil => rfl
    | cons b m => cases (h b.1).trans (get?_cons_self b.1 b.2 m)
  | cons a l ih =>
    cases m with
    | nil => cases (h a.1).symm.trans (get?_cons_self a.1 a.2 l)
    | cons b m =>
      obtain ⟨ka, va⟩ := a
      obtain ⟨kb, vb⟩ := b
      have hab := not_lt_of_get?_eq_some hm ((h ka).symm.trans (get?_cons_self ka va l))
      have hba := not_lt_of_get?_eq_some hl ((h kb).trans (get?_cons_self kb vb m))
      obtain rfl : ka = kb := String.le_antisymm (String.not_lt.mp hba) (String.not_lt.mp hab)
      obtain rfl : va = vb := by
        have := h ka
        rwa [get?_cons_self, get?_cons_self, Option.some.injEq] at this
      obtain ⟨hla, hl⟩ := List.pairwise_cons.mp hl
      obtain ⟨hmb, hm⟩ := List.pairwise_cons.mp hm
      congr 1
      refine ih hl hm fun k ↦ ?_
      by_cases hk : ka = k
      · subst hk
        rw [get?_eq_none_of_lt hla, get?_eq_none_of_lt hmb]
      · have := h k
        rwa [get?_cons_of_ne hk, get?_cons_of_ne hk] at this

/-- An increasing list gives a key the value that stands beside it. -/
theorem get?_eq_some_iff {l : List (String × α)} (hl : l.Pairwise fun a b ↦ a.1 < b.1) {k : String}
    {v : α} : get? k l = some v ↔ (k, v) ∈ l := by
  induction l with
  | nil => simp [get?]
  | cons a rest ih =>
    obtain ⟨k', v'⟩ := a
    obtain ⟨hlt, hrest⟩ := List.pairwise_cons.mp hl
    by_cases h : k' = k
    · subst h
      have hnot : (k', v) ∉ rest := fun hmem ↦ String.ne_of_lt (hlt _ hmem) rfl
      rw [get?_cons_self, Option.some.injEq, List.mem_cons, Prod.mk.injEq]
      simp [hnot, eq_comm]
    · rw [get?_cons_of_ne h, ih hrest, List.mem_cons, Prod.mk.injEq]
      simp [Ne.symm h]

end Entries

/-! ## Operations -/

namespace Dictionary

/-- The dictionary without keys. -/
def empty : Dictionary α := ⟨[], .nil⟩

instance : Inhabited (Dictionary α) := ⟨empty⟩

/-- The value of a key. -/
def get? (d : Dictionary α) (k : String) : Option α := Entries.get? k d.entries

/-- Whether a key has a value. -/
def contains (d : Dictionary α) (k : String) : Bool := (d.get? k).isSome

/-- The keys in increasing order. -/
def keys (d : Dictionary α) : List String := d.entries.map Prod.fst

/-- The number of keys. -/
def size (d : Dictionary α) : Nat := d.entries.length

/-- Give a key a value, whether or not it had one. -/
def insert (d : Dictionary α) (k : String) (v : α) : Dictionary α :=
  ⟨Entries.insert k v d.entries, Entries.pairwise_insert d.increasing⟩

/-- Give a key a value unless there is none to give. -/
def insertSome (d : Dictionary α) (k : String) : Option α → Dictionary α
  | some v => d.insert k v
  | none => d

/-- Keep the keys that pass a test. -/
def filterKeys (d : Dictionary α) (p : String → Bool) : Dictionary α :=
  ⟨d.entries.filter fun e ↦ p e.1, d.increasing.filter _⟩

/-- Take the value of a key away. -/
def erase (d : Dictionary α) (k : String) : Dictionary α := d.filterKeys (· ≠ k)

/-- Insert entries one after the other; the last value given to a key stays. -/
def insertAll (d : Dictionary α) (l : List (String × α)) : Dictionary α :=
  l.foldl (fun d e ↦ d.insert e.1 e.2) d

/-- The dictionary of these entries, a later one for the same key winning. -/
def ofList (l : List (String × α)) : Dictionary α := empty.insertAll l

/-! ## What the operations do to look-up -/

@[simp] theorem get?_empty (k : String) : (empty : Dictionary α).get? k = none := rfl

theorem get?_insert (d : Dictionary α) (k k' : String) (v : α) :
    (d.insert k v).get? k' = if k = k' then some v else d.get? k' :=
  Entries.get?_insert k k' v d.entries

@[simp] theorem get?_insert_self (d : Dictionary α) (k : String) (v : α) :
    (d.insert k v).get? k = some v := by
  simp [get?_insert]

theorem get?_insert_of_ne (d : Dictionary α) {k k' : String} (h : k ≠ k') (v : α) :
    (d.insert k v).get? k' = d.get? k' := by
  simp [get?_insert, h]

theorem get?_filterKeys (d : Dictionary α) (p : String → Bool) (k : String) :
    (d.filterKeys p).get? k = if p k then d.get? k else none :=
  Entries.get?_filter p k d.entries

theorem get?_erase (d : Dictionary α) (k k' : String) :
    (d.erase k).get? k' = if k' = k then none else d.get? k' := by
  by_cases h : k' = k <;> simp [erase, get?_filterKeys, h]

theorem contains_iff {d : Dictionary α} {k : String} :
    d.contains k = true ↔ ∃ v, d.get? k = some v := by
  rw [contains, Option.isSome_iff_exists]

theorem contains_eq_false_iff {d : Dictionary α} {k : String} :
    d.contains k = false ↔ d.get? k = none := by
  rw [contains, Option.isSome_eq_false_iff, Option.isNone_iff_eq_none]

@[simp] theorem contains_empty (k : String) : (empty : Dictionary α).contains k = false := rfl

theorem contains_insert (d : Dictionary α) (k k' : String) (v : α) :
    (d.insert k v).contains k' = (k == k' || d.contains k') := by
  by_cases h : k = k' <;> simp [contains, get?_insert, h]

theorem contains_erase (d : Dictionary α) (k k' : String) :
    (d.erase k).contains k' = (k' != k && d.contains k') := by
  by_cases h : k' = k <;> simp [contains, get?_erase, h]

theorem get?_insertSome (d : Dictionary α) (k k' : String) (v : Option α) :
    (d.insertSome k v).get? k' = if k = k' then v.or (d.get? k) else d.get? k' := by
  cases v with
  | none => by_cases h : k = k' <;> simp [insertSome, h]
  | some v => simp [insertSome, get?_insert]

@[simp] theorem insertAll_nil (d : Dictionary α) : d.insertAll [] = d := rfl

@[simp] theorem insertAll_cons (d : Dictionary α) (e : String × α) (l : List (String × α)) :
    d.insertAll (e :: l) = (d.insert e.1 e.2).insertAll l := rfl

theorem contains_insertAll {d : Dictionary α} {l : List (String × α)} {k : String} :
    (d.insertAll l).contains k = true ↔ d.contains k = true ∨ ∃ e ∈ l, e.1 = k := by
  induction l generalizing d with
  | nil => simp
  | cons e l ih =>
    rw [insertAll_cons, ih, contains_insert]
    simp only [Bool.or_eq_true, beq_iff_eq, List.mem_cons, exists_eq_or_imp]
    rw [or_assoc, or_left_comm]

theorem contains_ofList {l : List (String × α)} {k : String} :
    (ofList l).contains k = true ↔ ∃ e ∈ l, e.1 = k := by
  rw [ofList, contains_insertAll, contains_empty]
  simp

/-- What is looked up after entries were inserted is one of them, or it was there before. -/
theorem mem_of_get?_insertAll {d : Dictionary α} {l : List (String × α)} {k : String} {v : α}
    (h : (d.insertAll l).get? k = some v) : d.get? k = some v ∨ (k, v) ∈ l := by
  induction l generalizing d with
  | nil => exact .inl h
  | cons e l ih =>
    rcases ih h with hinsert | hmem
    · rw [get?_insert] at hinsert
      split at hinsert
      case isTrue hkey =>
        obtain rfl := hkey
        obtain rfl := Option.some.inj hinsert
        exact .inr List.mem_cons_self
      case isFalse => exact .inl hinsert
    · exact .inr (List.mem_cons_of_mem _ hmem)

theorem mem_of_get?_ofList {l : List (String × α)} {k : String} {v : α}
    (h : (ofList l).get? k = some v) : (k, v) ∈ l :=
  (mem_of_get?_insertAll h).resolve_left nofun

/-- Dictionaries that look up alike are equal. -/
theorem ext_get? {d e : Dictionary α} (h : ∀ k, d.get? k = e.get? k) : d = e := by
  obtain ⟨l, hl⟩ := d
  obtain ⟨m, hm⟩ := e
  have : l = m := Entries.ext_get? hl hm h
  subst this
  rfl

/-- The entries are the keys with their values. -/
theorem mem_entries_iff {d : Dictionary α} {k : String} {v : α} :
    (k, v) ∈ d.entries ↔ d.get? k = some v :=
  (Entries.get?_eq_some_iff d.increasing).symm

/-- The keys are listed in increasing order. -/
theorem pairwise_keys (d : Dictionary α) : d.keys.Pairwise (· < ·) :=
  List.pairwise_map.mpr d.increasing

theorem mem_keys_iff {d : Dictionary α} {k : String} : k ∈ d.keys ↔ (d.get? k).isSome = true := by
  rw [Option.isSome_iff_exists, keys, List.mem_map]
  constructor
  · rintro ⟨⟨k', v⟩, hmem, rfl⟩
    exact ⟨v, mem_entries_iff.mp hmem⟩
  · rintro ⟨v, hv⟩
    exact ⟨(k, v), mem_entries_iff.mpr hv, rfl⟩

/-- A key that is put in and another one that is taken out do not disturb each other. -/
theorem erase_insert_of_ne (d : Dictionary α) {k k' : String} (h : k ≠ k') (v : α) :
    (d.insert k v).erase k' = (d.erase k').insert k v := by
  refine ext_get? fun key ↦ ?_
  rw [get?_erase, get?_insert, get?_insert, get?_erase]
  by_cases hkey : key = k'
  · subst hkey
    rw [if_pos rfl, if_neg h, if_pos rfl]
  · rw [if_neg hkey, if_neg hkey]

theorem entries_insertAll {d : Dictionary α} {l : List (String × α)}
    (h : (d.entries ++ l).Pairwise fun a b ↦ a.1 < b.1) :
    (d.insertAll l).entries = d.entries ++ l := by
  induction l generalizing d with
  | nil => simp
  | cons e l ih =>
    have hlt : ∀ a ∈ d.entries, a.1 < e.1 := fun a ha ↦
      (List.pairwise_append.mp h).2.2 a ha e List.mem_cons_self
    have hins : (d.insert e.1 e.2).entries = d.entries ++ [e] :=
      Entries.insert_eq_append hlt e.2
    rw [insertAll_cons, ih, hins, List.append_assoc, List.singleton_append]
    rwa [hins, List.append_assoc, List.singleton_append]

/-- A dictionary is the one that its entries make. -/
@[simp] theorem ofList_entries (d : Dictionary α) : ofList d.entries = d := by
  refine ext_get? fun k ↦ ?_
  rw [get?, ofList, entries_insertAll (by simpa [empty] using d.increasing)]
  rfl

end Dictionary

end EntityForms
