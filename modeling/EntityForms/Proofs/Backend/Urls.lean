import EntityForms.Proofs.EditSession.Step
import EntityForms.Proofs.Text.Integer

/-!
# The URLs of records

The path at which a record is read is made from a template by writing the id in the place of every
`{id}`. The template fixes the lengths of all that is around the ids, so where two ids give the same
path they are of the same length, and then the first `{id}` of the template shows that they are the
same (`eq_of_fillId_eq`). It does not matter what else stands in the template, how many ids are
filled in, or whether their digits run on into the text around them.

A URL drops the slashes where the base path and the path meet. No id begins with a slash, so these
are slashes of the template, the same ones for every id (`dropSlashes_fillId`).
-/

namespace EntityForms

/-! ## Slashes -/

/-- A text of slashes. -/
def slashes (n : Nat) : String := String.ofList (List.replicate n '/')

theorem dropSlashes_slash (cs : List Char) : dropSlashes ('/' :: cs) = dropSlashes cs := rfl

theorem dropSlashes_cons_of_ne {c : Char} (hc : c ≠ '/') (cs : List Char) :
    dropSlashes (c :: cs) = c :: cs :=
  List.dropWhile_cons_of_neg (by simpa using hc)

theorem dropSlashes_replicate_append (n : Nat) (cs : List Char) :
    dropSlashes (List.replicate n '/' ++ cs) = dropSlashes cs := by
  induction n with
  | zero => rfl
  | succ n ih => rw [List.replicate_succ, List.cons_append, dropSlashes_slash, ih]

theorem joinUrl_slashes (base path : String) (m n : Nat) :
    joinUrl (base ++ slashes m) (slashes n ++ path) = joinUrl base path := by
  simp only [joinUrl, slashes, String.toList_append, String.toList_ofList, List.reverse_append,
    List.reverse_replicate, dropSlashes_replicate_append]

theorem joinUrl_eq_joinUrl_iff {base path path' : String} :
    joinUrl base path = joinUrl base path' ↔
      dropSlashes path.toList = dropSlashes path'.toList := by
  rw [joinUrl, joinUrl, String.ofList_inj, List.append_cancel_left_eq, List.cons_inj_right]

namespace Endpoints

/-! ## Filling in an id -/

/-- What stands for the id in a template. -/
def placeholder : List Char := ['\x7b', 'i', 'd', '\x7d']

variable {a b t rest : List Char} {c : Char}

theorem not_startsWith_placeholder
    (h : ∀ rest', c = '\x7b' → rest = 'i' :: 'd' :: '\x7d' :: rest' → False) :
    ¬placeholder <+: c :: rest := by
  rintro ⟨rest', heq⟩
  obtain ⟨hc, hrest⟩ := List.cons.inj heq
  exact h rest' hc.symm hrest.symm

theorem fillId_cons (h : ¬placeholder <+: c :: rest) :
    fillId a (c :: rest) = c :: fillId a rest := by
  rw [fillId]
  rintro rest' rfl rfl
  exact h ⟨rest', rfl⟩

theorem length_fillId_le (h : a.length ≤ b.length) (t : List Char) :
    (fillId a t).length ≤ (fillId b t).length := by
  fun_induction fillId a t with
  | case1 rest ih =>
    simp only [fillId, List.length_append]
    omega
  | case2 c rest hrest ih =>
    rw [fillId_cons (not_startsWith_placeholder hrest), List.length_cons, List.length_cons]
    omega
  | case3 => exact Nat.le_refl _

theorem fillId_of_no_placeholder (h : ¬placeholder <:+: t) : fillId a t = t := by
  fun_induction fillId a t with
  | case1 rest ih => exact absurd ⟨[], rest, rfl⟩ h
  | case2 c rest hrest ih =>
    rw [ih fun hmentioned ↦ h (hmentioned.trans (List.suffix_cons c rest).isInfix)]
  | case3 => rfl

/-- An id can be read off the path that it was filled into. -/
theorem eq_of_fillId_eq (hid : placeholder <:+: t) (h : fillId a t = fillId b t) : a = b := by
  fun_induction fillId a t with
  | case1 rest ih =>
    rw [fillId] at h
    -- of two ids of different lengths the longer one would give the longer path
    have hlength : a.length = b.length := by
      have htotal := congrArg List.length h
      rw [List.length_append, List.length_append] at htotal
      rcases Nat.lt_trichotomy a.length b.length with hlt | heq | hgt
      · have hrest := length_fillId_le (Nat.le_of_lt hlt) rest
        omega
      · exact heq
      · have hrest := length_fillId_le (Nat.le_of_lt hgt) rest
        omega
    exact (List.append_inj h hlength).1
  | case2 c rest hrest ih =>
    have hnot := not_startsWith_placeholder hrest
    rw [fillId_cons hnot] at h
    exact ih ((List.infix_cons_iff.mp hid).resolve_left hnot) (List.cons.inj h).2
  | case3 => exact absurd (List.infix_nil.mp hid) (by decide)

theorem fillId_eq_fillId_iff : fillId a t = fillId b t ↔ (placeholder <:+: t → a = b) := by
  constructor
  · intro h hid
    exact eq_of_fillId_eq hid h
  · intro h
    by_cases hid : placeholder <:+: t
    · rw [h hid]
    · rw [fillId_of_no_placeholder hid, fillId_of_no_placeholder hid]

/-! ## Slashes around an id -/

theorem dropSlashes_fillId (hne : a ≠ []) (hslash : '/' ∉ a) (t : List Char) :
    dropSlashes (fillId a t) = fillId a (dropSlashes t) := by
  fun_induction fillId a t with
  | case1 rest ih =>
    obtain ⟨c, cs, rfl⟩ := List.exists_cons_of_ne_nil hne
    have hc : c ≠ '/' := fun hc ↦ hslash (List.mem_cons.mpr (.inl hc.symm))
    exact dropSlashes_cons_of_ne hc (cs ++ fillId (c :: cs) rest)
  | case2 c rest hrest ih =>
    by_cases hc : c = '/'
    · rw [hc, dropSlashes_slash, dropSlashes_slash, ih]
    · rw [dropSlashes_cons_of_ne hc, dropSlashes_cons_of_ne hc,
        fillId_cons (not_startsWith_placeholder hrest)]
  | case3 => rfl

theorem placeholder_mem_dropSlashes_iff : placeholder <:+: dropSlashes t ↔ placeholder <:+: t := by
  induction t with
  | nil => rfl
  | cons c rest ih =>
    by_cases hc : c = '/'
    · subst hc
      have hnot : ¬placeholder <+: '/' :: rest := not_startsWith_placeholder fun _ h _ ↦ by cases h
      rw [dropSlashes_slash, List.infix_cons_iff, or_iff_right hnot, ih]
    · rw [dropSlashes_cons_of_ne hc]

theorem dropSlashes_getPath (e : Endpoints) (id : Int64) :
    dropSlashes (e.getPath id).toList =
      fillId (Text.writeInt id.toInt).toList (dropSlashes e.get.toList) := by
  rw [getPath, String.toList_ofList, dropSlashes_fillId (Text.writeInt_ne_nil _)]
  intro hslash
  rcases Text.eq_minus_or_isDigit_of_mem_writeInt hslash with h | h
  · exact absurd h (by decide)
  · exact absurd h (by decide)

/-! ## The URL of a record -/

theorem joinUrl_getPath_eq_iff {e : Endpoints} {base : String} {i j : Int64} :
    joinUrl base (e.getPath i) = joinUrl base (e.getPath j) ↔
      (placeholder <:+: e.get.toList → i = j) := by
  rw [joinUrl_eq_joinUrl_iff, dropSlashes_getPath, dropSlashes_getPath, fillId_eq_fillId_iff,
    placeholder_mem_dropSlashes_iff, String.toList_inj, Text.writeInt_toInt_inj]

/--
Under any base path two ids are read at the same URL exactly when they are the same or the template
does not mention the id at all, wherever the id stands in the template, however often, and whatever
stands around it. The slashes at the end of the base path and at the start of the path make no
difference to any URL. So in a session whose template mentions the id, two requests for one URL come
from opening the record of the same id.
-/
theorem joinUrl_getPath_inj (base : String) :
    (∀ (e : Endpoints) (i j : Int64),
      joinUrl base (e.getPath i) = joinUrl base (e.getPath j) ↔
        (placeholder <:+: e.get.toList → i = j)) ∧
    (∀ (path : String) (m n : Nat),
      joinUrl (base ++ slashes m) (slashes n ++ path) = joinUrl base path) ∧
    ∀ {Wire : Type} (s : EditSession Wire), placeholder <:+: s.entity.endpoints.get.toList →
      ∀ {op op' : EditSession.Operation} {backend backend' : Backend}
        {st st' : EditSession.State} {url : String} {answer answer' : Except ApiError Json},
        .get url answer ∈ (s.perform op backend st).trace →
        .get url answer' ∈ (s.perform op' backend' st').trace →
        ∃ k, op = .openRecord (some k) ∧ op' = .openRecord (some k) := by
  refine ⟨fun e i j ↦ joinUrl_getPath_eq_iff, joinUrl_slashes base, ?_⟩
  intro Wire s hid op op' backend backend' st st' url answer answer' h h'
  obtain ⟨k, rfl, hurl⟩ := EditSession.get_mem_perform h
  obtain ⟨k', rfl, hurl'⟩ := EditSession.get_mem_perform h'
  obtain rfl : k = k' := joinUrl_getPath_eq_iff.mp (hurl.symm.trans hurl') hid
  exact ⟨k, rfl, rfl⟩

/-- In this template the digits of the id run on into a digit and into the id once more. -/
def sampleTemplate : Endpoints := ⟨"//x/\x7bid\x7d1\x7bid\x7d", "/x/new", "/x/upd"⟩

/-- An id that begins with another one is still read at a URL of its own. -/
theorem joinUrl_getPath_of_sampleTemplate :
    joinUrl "/api//" (sampleTemplate.getPath 1) = "/api/x/111" ∧
      placeholder <:+: sampleTemplate.get.toList ∧
      joinUrl "/api//" (sampleTemplate.getPath 1) ≠
        joinUrl "/api//" (sampleTemplate.getPath 11) := by
  have hid : placeholder <:+: sampleTemplate.get.toList := ⟨['/', '/', 'x', '/'], _, rfl⟩
  refine ⟨by decide +kernel, hid, fun h ↦ ?_⟩
  exact absurd (((joinUrl_getPath_inj "/api//").1 sampleTemplate 1 11).mp h hid) (by decide)

end Endpoints

end EntityForms
