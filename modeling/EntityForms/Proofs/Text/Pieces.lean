import EntityForms.Text.Pieces
import Mathlib.Data.List.DropRight

/-!
# The names in a delimited text

Two laws say how a delimited text is taken apart: a delimiter between two texts separates their
names, and a text without a delimiter is a single name up to white space, or none (`TakesApart`).
Since every text is put together from texts without a delimiter, only one function obeys them
(`TakesApart.unique`), and it takes a list that has been joined to the names of its items, one item
after the other (`splitNames_joinNames`).

What comes out are *names*: texts that are not empty, have no white space at either end and do not
contain the delimiter (`IsName`). A list is joined and taken apart unchanged exactly when all its
items are names (`flatMap_splitNames_eq_self_iff`).

Nothing here asks what the delimiter is. It may be white space itself, which only means that no name
has it inside.
-/

namespace EntityForms.Text

variable {d : Char} {cs : List Char}

/-! ## Trimming -/

@[simp] theorem trimEnd_trimEnd (cs : List Char) : trimEnd (trimEnd cs) = trimEnd cs :=
  List.rdropWhile_idempotent isBlank cs

/-- Trimming the end leaves the first character in place, so a start that is trimmed stays so. -/
theorem trimStart_trim (cs : List Char) : trimStart (trim cs) = trim cs := by
  have hinit : trim cs <+: trimStart cs := List.rdropWhile_prefix isBlank (trimStart cs)
  cases htrim : trim cs with
  | nil => rfl
  | cons c rest =>
    rw [htrim] at hinit
    obtain ⟨rest', hstart⟩ := hinit
    have hc : ¬isBlank c = true := by
      have hhead := List.head?_dropWhile_not isBlank cs
      rw [← trimStart, ← hstart] at hhead
      simpa using hhead
    exact List.dropWhile_cons_of_neg hc

@[simp] theorem trim_trim (cs : List Char) : trim (trim cs) = trim cs := by
  rw [trim, trimStart_trim, trim, trimEnd_trimEnd]

theorem mem_of_mem_trim {c : Char} (h : c ∈ trim cs) : c ∈ cs :=
  (List.dropWhile_suffix isBlank).subset ((List.rdropWhile_prefix isBlank _).subset h)

/-! ## Stretches between delimiters -/

theorem splitAt_eq_splitOn (d : Char) (cs : List Char) : splitAt d cs = cs.splitOn d := by
  induction cs with
  | nil => rfl
  | cons c cs ih =>
    rw [splitAt, ih, List.splitOn_cons_eq_if_modifyHead]
    by_cases h : c = d
    · simp [h]
    · cases hsplit : cs.splitOn d with
      | nil => exact absurd hsplit (List.splitOn_ne_nil d cs)
      | cons p ps => simp [h, consFirst]

@[simp] theorem flatten_consFirst (c : Char) (ps : List (List Char)) :
    (consFirst c ps).flatten = c :: ps.flatten := by
  cases ps <;> rfl

theorem flatten_splitAt (d : Char) (cs : List Char) :
    (splitAt d cs).flatten = cs.filter (· ≠ d) := by
  induction cs with
  | nil => rfl
  | cons c cs ih =>
    by_cases h : c = d
    · subst h
      rw [splitAt_cons_self, List.flatten_cons, ih]
      simp
    · rw [splitAt_cons_of_ne h, flatten_consFirst, ih, List.filter_cons_of_pos (by simpa using h)]

theorem not_mem_of_mem_splitAt {p : List Char} (h : p ∈ splitAt d cs) : d ∉ p := by
  intro hd
  have hmem : d ∈ (splitAt d cs).flatten := List.mem_flatten.mpr ⟨p, h, hd⟩
  rw [flatten_splitAt] at hmem
  simp at hmem

/-! ## Pieces -/

theorem mem_pieces {p : List Char} :
    p ∈ pieces d cs ↔ p ≠ [] ∧ ∃ q ∈ splitAt d cs, trim q = p := by
  rw [pieces, List.mem_filter, List.mem_map, and_comm]
  simp

theorem pieces_append_cons (d : Char) (cs cs' : List Char) :
    pieces d (cs ++ d :: cs') = pieces d cs ++ pieces d cs' := by
  have hsplit : splitAt d (cs ++ d :: cs') = splitAt d cs ++ splitAt d cs' := by
    simp only [splitAt_eq_splitOn, List.splitOn_append_cons_self]
  rw [pieces, hsplit, List.map_append, List.filter_append, ← pieces, ← pieces]

theorem pieces_eq_nil_iff : pieces d cs = [] ↔ ∀ c ∈ cs, isBlank c = true ∨ c = d := by
  calc pieces d cs = []
      ↔ ∀ q ∈ splitAt d cs, trim q = [] := by
        rw [pieces, List.filter_eq_nil_iff, List.forall_mem_map]
        simp
    _ ↔ ∀ c ∈ (splitAt d cs).flatten, isBlank c = true := by
        simp only [trim_eq_nil_iff, List.mem_flatten]
        exact ⟨fun h c ⟨q, hq, hc⟩ ↦ h q hq c hc, fun h q hq c hc ↦ h c ⟨q, hq, hc⟩⟩
    _ ↔ ∀ c ∈ cs, isBlank c = true ∨ c = d := by
        rw [flatten_splitAt]
        refine forall_congr' fun c ↦ ?_
        simp only [List.mem_filter, decide_not, Bool.not_eq_true', decide_eq_false_iff_not, and_imp]
        exact imp_congr_right fun _ ↦ by rw [or_comm, or_iff_not_imp_left]

/-! ## Joining -/

@[simp] theorem joinNames_singleton (d : Char) (s : String) : joinNames d [s] = s := by
  simp [joinNames]

theorem joinNames_cons_cons (d : Char) (s t : String) (names : List String) :
    joinNames d (s :: t :: names) = s ++ String.singleton d ++ joinNames d (t :: names) := by
  rw [← String.toList_inj]
  simp [joinNames, List.intercalate_cons_cons]

theorem exists_joinNames_eq (d : Char) (s : String) :
    ∃ stretches, (∀ p ∈ stretches, d ∉ p.toList) ∧ joinNames d stretches = s := by
  refine ⟨(splitAt d s.toList).map String.ofList, ?_, ?_⟩
  · intro p hp
    obtain ⟨cs, hcs, rfl⟩ := List.mem_map.mp hp
    rw [String.toList_ofList]
    exact not_mem_of_mem_splitAt hcs
  · have hlists : ((splitAt d s.toList).map String.ofList).map String.toList =
        splitAt d s.toList := by
      simp [Function.comp_def]
    rw [joinNames, hlists, splitAt_eq_splitOn, List.intercalate_splitOn, String.ofList_toList]

/-! ## The laws of taking apart -/

/-- What is asked of a function that takes texts apart at a delimiter. -/
structure TakesApart (d : Char) (split : String → List String) : Prop where
  /-- A delimiter separates the names in the text before it from those in the text after it. -/
  append (s t : String) : split (s ++ String.singleton d ++ t) = split s ++ split t
  /-- A text without a delimiter is one name, up to the white space around it, or blank. -/
  undivided {s : String} (h : d ∉ s.toList) :
    split s = if allBlank s = true then [] else [trimmed s]

theorem takesApart_splitNames (d : Char) : TakesApart d (splitNames d) where
  append s t := by
    have hlist : (s ++ String.singleton d ++ t).toList = s.toList ++ d :: t.toList := by simp
    rw [splitNames, hlist, pieces_append_cons, List.map_append, ← splitNames, ← splitNames]
  undivided {s} h := by
    have hsplit : splitAt d s.toList = [s.toList] := by
      rw [splitAt_eq_splitOn, List.splitOn_eq_singleton h]
    rw [splitNames, pieces, hsplit, List.map_singleton]
    by_cases hblank : allBlank s = true
    · rw [if_pos hblank, allBlank_iff.mp hblank]
      rfl
    · have hne : trim s.toList ≠ [] := mt allBlank_iff.mpr hblank
      rw [if_neg hblank, List.filter_cons_of_pos (by simpa using hne), List.filter_nil,
        List.map_singleton, ← trimmed]

namespace TakesApart

variable {split split' : String → List String}

theorem split_joinNames (h : TakesApart d split) (items : List String) :
    split (joinNames d items) = items.flatMap split := by
  induction items with
  | nil => exact h.undivided (s := "") List.not_mem_nil
  | cons item items ih =>
    cases items with
    | nil => simp
    | cons item' items => rw [joinNames_cons_cons, h.append, ih, ← List.flatMap_cons]

/-- Only one function obeys the laws: they give the names in the stretches of a text, and those of
the text are these in sequence. -/
theorem unique (h : TakesApart d split) (h' : TakesApart d split') (s : String) :
    split s = split' s := by
  obtain ⟨stretches, hfree, rfl⟩ := exists_joinNames_eq d s
  have hstretch : ∀ p ∈ stretches, split p = split' p := by
    intro p hp
    rw [h.undivided (hfree p hp), h'.undivided (hfree p hp)]
  calc split (joinNames d stretches)
      = stretches.flatMap split := h.split_joinNames stretches
    _ = stretches.flatMap split' := List.flatMap_congr hstretch
    _ = split' (joinNames d stretches) := (h'.split_joinNames stretches).symm

end TakesApart

theorem splitNames_joinNames (d : Char) (items : List String) :
    splitNames d (joinNames d items) = items.flatMap (splitNames d) :=
  (takesApart_splitNames d).split_joinNames items

/-! ## Names -/

/-- A text that a delimited list can hold as an item of its own. -/
structure IsName (d : Char) (s : String) : Prop where
  ne_empty : s ≠ ""
  trimmed_eq : trimmed s = s
  not_mem : d ∉ s.toList

theorem isName_of_mem_splitNames {s name : String} (h : name ∈ splitNames d s) :
    IsName d name := by
  obtain ⟨p, hp, rfl⟩ := List.mem_map.mp h
  obtain ⟨hne, q, hq, rfl⟩ := mem_pieces.mp hp
  refine ⟨?_, ?_, ?_⟩
  · simpa using hne
  · rw [trimmed, String.toList_ofList, trim_trim]
  · rw [String.toList_ofList]
    exact fun hd ↦ not_mem_of_mem_splitAt hq (mem_of_mem_trim hd)

theorem splitNames_of_isName {s : String} (h : IsName d s) : splitNames d s = [s] := by
  have hblank : ¬allBlank s = true := by
    rw [allBlank_iff, ← toList_trimmed, h.trimmed_eq]
    simpa using h.ne_empty
  rw [(takesApart_splitNames d).undivided h.not_mem, if_neg hblank, h.trimmed_eq]

theorem splitNames_eq_nil_iff {s : String} :
    splitNames d s = [] ↔ ∀ c ∈ s.toList, isBlank c = true ∨ c = d := by
  rw [splitNames, List.map_eq_nil_iff, pieces_eq_nil_iff]

/-- Taking every item apart changes nothing exactly when the items are names. If one of them were
not, it would not be among the names that come out, wherever these come from. -/
theorem flatMap_splitNames_eq_self_iff {items : List String} :
    items.flatMap (splitNames d) = items ↔ ∀ item ∈ items, IsName d item := by
  constructor
  · intro h item hitem
    rw [← h, List.mem_flatMap] at hitem
    obtain ⟨_, -, hname⟩ := hitem
    exact isName_of_mem_splitNames hname
  · intro h
    induction items with
    | nil => rfl
    | cons item items ih =>
      rw [List.forall_mem_cons] at h
      rw [List.flatMap_cons, splitNames_of_isName h.1, ih h.2, List.singleton_append]

theorem allBlank_joinNames_iff {names : List String} (h : ∀ name ∈ names, IsName d name) :
    allBlank (joinNames d names) = true ↔ names = [] := by
  constructor
  · intro hblank
    rw [allBlank, List.all_eq_true] at hblank
    rw [← flatMap_splitNames_eq_self_iff.mpr h, ← splitNames_joinNames, splitNames_eq_nil_iff]
    exact fun c hc ↦ .inl (hblank c hc)
  · rintro rfl
    rfl

end EntityForms.Text
