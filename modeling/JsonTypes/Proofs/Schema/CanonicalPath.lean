import JsonTypes.Proofs.Schema.DotSegments

/-!
# Canonical paths

Where a path leads is told by whether it starts at the root, the parents that it goes up and the
names that it goes down (`target`), the segments being taken one by one (`step`). Removing the dot
segments keeps all of this, and leaves no segment that could be left out. So two paths come to the
same text just if they lead to the same place and, unless that is the start or one of its parents,
both or neither of them lead to a directory (`removeDotSegments_canonical`).
-/

namespace JsonTypes

namespace Address

open Text

variable {path segment name : List Char} {front between back : List (List Char)}

/-! ## Targets -/

def startsAtRoot (path : List Char) : Bool := path.head? = some '/'

/-- The parents and names that the segments of a path come down to. -/
def target (path : List Char) : Nat × List (List Char) :=
  (splitOn '/' path).foldl (step (startsAtRoot path)) (0, [])

/-- A path that names a directory ends with a slash or a dot segment. -/
def EndsAsDirectory (path : List Char) : Prop :=
  ['/'] <:+ path ∨ ['/', '.'] <:+ path ∨ ['/', '.', '.'] <:+ path

attribute [ext] PathForm

theorem absolute_read (path : List Char) : (PathForm.read path).absolute = startsAtRoot path := rfl

theorem target_eq_read (path : List Char) :
    target path = ((PathForm.read path).parents, (PathForm.read path).names) := by
  rw [target, ← walk_eq_foldl]
  rfl

theorem isDirectoryPath_eq_true : isDirectoryPath path = true ↔ EndsAsDirectory path := by
  simp only [isDirectoryPath, EndsAsDirectory, Bool.or_eq_true, List.isSuffixOf_iff_suffix,
    or_assoc]

theorem read_removeDotSegments (path : List Char) :
    PathForm.read (removeDotSegments path) = PathForm.read path := by
  rw [removeDotSegments_eq, PathForm.read_print (PathForm.proper_read path)]

/-- The text that is left tells the form of the path. -/
theorem removeDotSegments_inj {p q : List Char} :
    removeDotSegments p = removeDotSegments q ↔ PathForm.read p = PathForm.read q := by
  refine ⟨fun h => ?_, fun h => ?_⟩
  · rw [← read_removeDotSegments p, h, read_removeDotSegments]
  · rw [removeDotSegments_eq, removeDotSegments_eq, h]

theorem read_eq_iff {p q : List Char} : PathForm.read p = PathForm.read q ↔
    startsAtRoot p = startsAtRoot q ∧ target p = target q ∧
      ((target p).2 ≠ [] → (EndsAsDirectory p ↔ EndsAsDirectory q)) := by
  have hdirectory (path : List Char) : (PathForm.read path).directory =
      (isDirectoryPath path && !(target path).2.isEmpty) := by
    rw [target_eq_read]
    rfl
  rw [PathForm.ext_iff, hdirectory, hdirectory, absolute_read, absolute_read,
    ← isDirectoryPath_eq_true, ← isDirectoryPath_eq_true, ← Bool.eq_iff_iff]
  constructor
  · rintro ⟨habsolute, hparents, hnames, hdir⟩
    have htarget : target p = target q := by
      rw [target_eq_read, target_eq_read, hparents, hnames]
    refine ⟨habsolute, htarget, fun hne => ?_⟩
    simpa [← htarget, List.isEmpty_eq_false_iff.2 hne] using hdir
  · rintro ⟨habsolute, htarget, hdir⟩
    have hboth := htarget
    rw [target_eq_read, target_eq_read, Prod.mk.injEq] at hboth
    refine ⟨habsolute, hboth.1, hboth.2, ?_⟩
    rw [← htarget]
    by_cases hne : (target p).2 = []
    · simp [hne]
    · rw [hdir hne]

/-! ## Segments -/

theorem empty_or_slash_of_front (h : splitOn '/' path = [] :: back) :
    path = [] ∨ path.head? = some '/' := by
  rw [← intercalate_splitOn '/' path, h]
  cases back with
  | nil => exact .inl rfl
  | cons next back =>
    rw [List.intercalate_cons_of_ne_nil (List.cons_ne_nil _ _)]
    exact .inr rfl

theorem empty_or_slash_of_back (h : splitOn '/' path = front ++ [[]]) :
    path = [] ∨ path.getLast? = some '/' := by
  rw [← intercalate_splitOn '/' path, h]
  cases front with
  | nil => exact .inl rfl
  | cons first front =>
    rw [intercalate_concat (List.cons_ne_nil _ _), List.getLast?_concat]
    exact .inr rfl

/-- What is neither first nor last is in the middle. -/
theorem mem_middle {α : Type} {front back first middle last : List α} {a : α}
    (h : front ++ a :: back = first ++ middle ++ last) (hfirst : first.length ≤ 1)
    (hlast : last.length ≤ 1) (hfront : front ≠ []) (hback : back ≠ []) : a ∈ middle := by
  have hlength := congrArg List.length h
  simp only [List.length_append, List.length_cons] at hlength
  have hfront := List.length_pos_iff.2 hfront
  have hback := List.length_pos_iff.2 hback
  have ha : (first ++ middle ++ last)[front.length]? = some a := by simp [← h]
  rw [List.getElem?_append_left (by simp only [List.length_append]; omega),
    List.getElem?_append_right (by omega)] at ha
  exact List.mem_of_getElem? ha

namespace PathForm

variable {form : PathForm}

theorem mem_segments_ne (h : form.Proper) (hmem : segment ∈ form.segments) : segment ≠ ['.'] := by
  rintro rfl
  simp only [segments, List.mem_append] at hmem
  rcases hmem with ((hmem | hmem) | hmem) | hmem
  · split_ifs at hmem <;> simp at hmem
  · simp at hmem
  · exact (h.names _ hmem).1.2.1 rfl
  · split_ifs at hmem <;> simp at hmem

/-- Before a parent there are only parents. -/
theorem parents_of_segments (h : form.Proper)
    (hsegments : form.segments = front ++ ['.', '.'] :: back) :
    form.absolute = false ∧ ∀ s ∈ front, s = ['.', '.'] := by
  have hnames : ['.', '.'] ∉ form.names := fun hmem => (h.names _ hmem).1.2.2 rfl
  have hrest : ['.', '.'] ∉
      form.names ++ if form.directory || form.names.isEmpty then [[]] else [] := by
    rw [List.mem_append]
    rintro (hmem | hmem)
    · exact hnames hmem
    · split_ifs at hmem <;> simp at hmem
  rcases habsolute : form.absolute
  · refine ⟨rfl, ?_⟩
    rw [segments, habsolute, if_neg Bool.false_ne_true, List.nil_append, List.append_assoc,
      List.append_eq_append_iff] at hsegments
    rcases hsegments with ⟨more, rfl, hmore⟩ | ⟨more, hreplicate, -⟩
    · rw [hmore] at hrest
      exact absurd (List.mem_append_right _ List.mem_cons_self) hrest
    · intro s hs
      exact List.eq_of_mem_replicate (hreplicate ▸ List.mem_append_left _ hs)
  · have hmem : ['.', '.'] ∈ form.segments := by simp [hsegments]
    rw [segments, habsolute, h.parents habsolute, if_pos rfl, List.append_assoc] at hmem
    simp only [List.replicate_zero, List.append_nil, List.mem_append, List.mem_singleton,
      reduceCtorEq, false_or] at hmem
    exact absurd (List.mem_append.2 hmem) hrest

/-- Only the first and the last segment can be empty. -/
theorem ends_of_segments (h : form.Proper) (hsegments : form.segments = front ++ [] :: back) :
    front = [] ∨ back = [] := by
  by_contra hboth
  rw [not_or] at hboth
  have hsplit : front ++ [] :: back = (if form.absolute then [[]] else []) ++
      (List.replicate form.parents ['.', '.'] ++ form.names) ++
      (if form.directory || form.names.isEmpty then [[]] else []) := by
    rw [← hsegments, segments, List.append_assoc (if form.absolute then _ else _)]
  have hmem := mem_middle hsplit (by split_ifs <;> simp) (by split_ifs <;> simp) hboth.1 hboth.2
  rcases List.mem_append.1 hmem with hmem | hmem
  · simp at hmem
  · exact (h.names _ hmem).1.1 rfl

/-- Behind a name there are only names, and perhaps an empty segment at the end. -/
theorem isName_or_last (h : form.Proper) (hname : IsName name)
    (hsegments : form.segments = front ++ name :: (between ++ segment :: back)) :
    IsName segment ∨ segment = [] ∧ back = [] := by
  rw [← List.cons_append, ← List.append_assoc] at hsegments
  by_cases hempty : segment = []
  · subst hempty
    rcases ends_of_segments h hsegments with hfront | hback
    · simp at hfront
    · exact .inr ⟨rfl, hback⟩
  · refine .inl ⟨hempty, mem_segments_ne h (by simp [hsegments]), ?_⟩
    rintro rfl
    exact hname.2.2 ((parents_of_segments h hsegments).2 name (by simp))

theorem exists_names_of_segments (h : form.Proper) (hname : IsName name)
    (hsegments : form.segments = front ++ name :: back) :
    ∃ names tail, back = names ++ tail ∧ (∀ n ∈ names, IsName n) ∧ (tail = [] ∨ tail = [[]]) := by
  rcases List.eq_nil_or_concat back with rfl | ⟨init, last, rfl⟩
  · exact ⟨[], [], rfl, nofun, .inl rfl⟩
  rw [List.concat_eq_append] at *
  have hinit : ∀ n ∈ init, IsName n := by
    intro n hn
    obtain ⟨between, after, rfl⟩ := List.append_of_mem hn
    rw [List.append_assoc, List.cons_append] at hsegments
    refine (isName_or_last h hname hsegments).resolve_right fun hlast => ?_
    simp at hlast
  rcases isName_or_last h hname hsegments with hlast | ⟨rfl, -⟩
  · refine ⟨init ++ [last], [], (List.append_nil _).symm, fun n hn => ?_, .inl rfl⟩
    rcases List.mem_append.1 hn with hn | hn
    · exact hinit n hn
    · exact List.mem_singleton.1 hn ▸ hlast
  · exact ⟨init, [[]], rfl, hinit, .inr rfl⟩

/-- All segments but the last one: the root, the parents and names. -/
theorem exists_names_of_init (hsegments : form.segments = front ++ [segment]) :
    ∃ names, names ⊆ form.names ∧ front = (if form.absolute then [[]] else []) ++
      List.replicate form.parents ['.', '.'] ++ names := by
  by_cases htail : (form.directory || form.names.isEmpty) = true
  · rw [segments, if_pos htail] at hsegments
    exact ⟨form.names, List.Subset.refl _, (List.append_inj' hsegments rfl).1.symm⟩
  · rw [segments, if_neg htail] at hsegments
    rw [Bool.or_eq_true, not_or, List.isEmpty_iff] at htail
    obtain ⟨init, last, hinit⟩ := (List.eq_nil_or_concat form.names).resolve_left htail.2
    rw [hinit, List.concat_eq_append, List.append_nil, ← List.append_assoc] at hsegments
    refine ⟨init, ?_, (List.append_inj' hsegments rfl).1.symm⟩
    rw [hinit, List.concat_eq_append]
    exact List.subset_append_left _ _

end PathForm

/-- The text that is left of a path leads where the path does, and has no segment that does
nothing: no single dot, no parent behind a name or at the root, and nothing empty but what a slash
at one of its ends makes so, or all of it. It is the same for all paths that lead to the same place,
and for those only. -/
theorem removeDotSegments_canonical (p q : List Char) :
    (startsAtRoot (removeDotSegments p) = startsAtRoot p ∧
      target (removeDotSegments p) = target p) ∧
    (∀ front segment back, splitOn '/' (removeDotSegments p) = front ++ segment :: back →
      segment ≠ ['.'] ∧
      (segment = ['.', '.'] → startsAtRoot p = false ∧ ∀ s ∈ front, s = ['.', '.']) ∧
      (segment = [] → removeDotSegments p = [] ∨
        front = [] ∧ (removeDotSegments p).head? = some '/' ∨
        back = [] ∧ (removeDotSegments p).getLast? = some '/')) ∧
    (removeDotSegments p = removeDotSegments q ↔
      startsAtRoot p = startsAtRoot q ∧ target p = target q ∧
        ((target p).2 ≠ [] → (EndsAsDirectory p ↔ EndsAsDirectory q))) ∧
    removeDotSegments (removeDotSegments p) = removeDotSegments p := by
  have hproper := PathForm.proper_read p
  refine ⟨⟨?_, ?_⟩, fun front segment back hsplit => ⟨?_, ?_, ?_⟩, ?_,
    removeDotSegments_idempotent p⟩
  · rw [← absolute_read, read_removeDotSegments, absolute_read]
  · rw [target_eq_read, read_removeDotSegments, target_eq_read]
  · rw [splitOn_removeDotSegments] at hsplit
    exact PathForm.mem_segments_ne hproper (by simp [hsplit])
  · rintro rfl
    rw [splitOn_removeDotSegments] at hsplit
    exact PathForm.parents_of_segments hproper hsplit
  · rintro rfl
    have hends := hsplit
    rw [splitOn_removeDotSegments] at hends
    rcases PathForm.ends_of_segments hproper hends with rfl | rfl
    · exact (empty_or_slash_of_front hsplit).imp_right fun hslash => .inl ⟨rfl, hslash⟩
    · exact (empty_or_slash_of_back hsplit).imp_right fun hslash => .inr ⟨rfl, hslash⟩
  · rw [removeDotSegments_inj, read_eq_iff]

end Address

end JsonTypes
