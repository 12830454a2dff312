import Mathlib.Tactic.Common
import JsonTypes.Schema.Address

/-!
# Paths without dot segments

What is left of a path when its dot segments are removed is told by four things: whether it starts
at the root, how many parents it goes up, the names it goes down, and whether it leads to a
directory (`PathForm`). A path printed from them is read as them again, so that dot segments are
removed once and for all (`removeDotSegments_idempotent`).

The text that is left never has more characters between its slashes, and it ends as the path does
unless it ends with a slash. It need not start as the path does.
-/

namespace JsonTypes

namespace Address

open Text

/-- A segment that stands for itself. -/
def IsName (segment : List Char) : Prop :=
  segment ≠ [] ∧ segment ≠ ['.'] ∧ segment ≠ ['.', '.']

/-! ## Walks -/

/-- What one segment does to the parents and names so far. -/
def step (absolute : Bool) (s : Nat × List (List Char)) (segment : List Char) :
    Nat × List (List Char) :=
  if segment = [] ∨ segment = ['.'] then s
  else if segment = ['.', '.'] then
    if s.2 = [] then (if absolute then s.1 else s.1 + 1, []) else (s.1, s.2.dropLast)
  else (s.1, s.2 ++ [segment])

section Walk

variable {absolute : Bool}

theorem walk_eq_foldl (segments : List (List Char)) (s : Nat × List (List Char)) :
    walk absolute segments s = segments.foldl (step absolute) s := by
  induction segments generalizing s with
  | nil => rfl
  | cons segment segments ih =>
    obtain ⟨parents, names⟩ := s
    rw [walk.eq_def, List.foldl_cons, ← ih, step]
    split_ifs <;> cases names <;> simp_all

theorem step_name {segment : List Char} (h : IsName segment) (s : Nat × List (List Char)) :
    step absolute s segment = (s.1, s.2 ++ [segment]) := by
  rw [step, if_neg (not_or.2 ⟨h.1, h.2.1⟩), if_neg h.2.2]

theorem foldl_names {names : List (List Char)} (h : ∀ n ∈ names, IsName n)
    (s : Nat × List (List Char)) : names.foldl (step absolute) s = (s.1, s.2 ++ names) := by
  induction names generalizing s with
  | nil => simp
  | cons n names ih =>
    rw [List.foldl_cons, step_name (h n List.mem_cons_self),
      ih fun m hm => h m (List.mem_cons_of_mem _ hm)]
    simp

theorem foldl_parents (parents start : Nat) :
    (List.replicate parents ['.', '.']).foldl (step false) (start, []) = (start + parents, []) := by
  induction parents generalizing start with
  | zero => rfl
  | succ parents ih =>
    rw [List.replicate_succ, List.foldl_cons, show step false (start, []) ['.', '.'] =
      (start + 1, []) from rfl, ih, Nat.add_right_comm, Nat.add_assoc]

theorem step_absolute (s : Nat × List (List Char)) (segment : List Char) :
    (step true s segment).1 = s.1 := by
  unfold step
  split_ifs
  · rfl
  · rfl
  · exact absurd rfl ‹_›
  · rfl
  · rfl

/-- A step only adds the segment, and that only if it is a name. -/
theorem mem_step {s : Nat × List (List Char)} {segment name : List Char}
    (h : name ∈ (step absolute s segment).2) : name ∈ s.2 ∨ name = segment ∧ IsName segment := by
  unfold step at h
  split_ifs at h with hempty hdots
  · exact .inl h
  · exact absurd h List.not_mem_nil
  · exact absurd h List.not_mem_nil
  · exact .inl (List.dropLast_subset _ h)
  · rcases List.mem_append.1 h with h | h
    · exact .inl h
    · rw [not_or] at hempty
      exact .inr ⟨List.mem_singleton.1 h, hempty.1, hempty.2, hdots⟩

/-- From the root a walk goes up to no parent. -/
theorem walk_absolute (segments : List (List Char)) (s : Nat × List (List Char)) :
    (walk true segments s).1 = s.1 := by
  rw [walk_eq_foldl]
  induction segments generalizing s with
  | nil => rfl
  | cons segment segments ih => rw [List.foldl_cons, ih, step_absolute]

/-- A walk only collects names that are segments. -/
theorem mem_walk {segments : List (List Char)} {s : Nat × List (List Char)} {name : List Char}
    (h : name ∈ (walk absolute segments s).2) :
    name ∈ s.2 ∨ name ∈ segments ∧ IsName name := by
  rw [walk_eq_foldl] at h
  induction segments generalizing s with
  | nil => exact .inl h
  | cons segment segments ih =>
    rcases ih h with h | h
    · rcases mem_step h with h | ⟨rfl, h⟩
      · exact .inl h
      · exact .inr ⟨List.mem_cons_self, h⟩
    · exact .inr ⟨List.mem_cons_of_mem _ h.1, h.2⟩

/-- Where the last segment is a name, the walk ends with it. -/
theorem walk_concat_name {segments : List (List Char)} {last : List Char} (h : IsName last)
    (s : Nat × List (List Char)) :
    walk absolute (segments ++ [last]) s =
      ((walk absolute segments s).1, (walk absolute segments s).2 ++ [last]) := by
  rw [walk_eq_foldl, walk_eq_foldl, List.foldl_append, List.foldl_cons, List.foldl_nil,
    step_name h]

/-- How many characters a walk keeps, those of the parents among them. -/
def size (s : Nat × List (List Char)) : Nat := 2 * s.1 + s.2.flatten.length

theorem size_step_le (s : Nat × List (List Char)) (segment : List Char) :
    size (step absolute s segment) ≤ size s + segment.length := by
  have hdrop : s.2.dropLast.flatten.length ≤ s.2.flatten.length := by
    rcases List.eq_nil_or_concat s.2 with h | ⟨front, last, h⟩ <;> simp [h]
  unfold step size
  split_ifs with hempty hdots hnames habsolute
  · exact Nat.le_add_right _ _
  · simp only [List.flatten_nil, List.length_nil]
    omega
  · simp only [hdots, List.flatten_nil, List.length_nil, List.length_cons]
    omega
  · dsimp only
    omega
  · simp only [List.flatten_append, List.flatten_singleton, List.length_append]
    omega

theorem size_walk_le (segments : List (List Char)) (s : Nat × List (List Char)) :
    size (walk absolute segments s) ≤ size s + segments.flatten.length := by
  rw [walk_eq_foldl]
  induction segments generalizing s with
  | nil => exact Nat.le_add_right _ _
  | cons segment segments ih =>
    have hstep : size (step absolute s segment) ≤ _ := size_step_le s segment
    have hrest := ih (step absolute s segment)
    rw [List.foldl_cons, List.flatten_cons, List.length_append]
    omega

end Walk

/-! ## Segments -/

theorem intercalate_parents {rest : List (List Char)} (h : rest ≠ []) (parents : Nat) :
    ['/'].intercalate (List.replicate parents ['.', '.'] ++ rest) =
      (List.replicate parents ['.', '.', '/']).flatten ++ ['/'].intercalate rest := by
  induction parents with
  | zero => rfl
  | succ parents ih =>
    rw [List.replicate_succ, List.cons_append,
      List.intercalate_cons_of_ne_nil (List.append_ne_nil_of_right_ne_nil _ h), ih]
    rfl

theorem intercalate_concat {front : List (List Char)} (h : front ≠ []) (last : List Char) :
    ['/'].intercalate (front ++ [last]) = ['/'].intercalate front ++ '/' :: last := by
  induction front with
  | nil => exact absurd rfl h
  | cons first front ih =>
    rcases front with _ | ⟨next, front⟩
    · simp
    · rw [List.cons_append, List.intercalate_cons_of_ne_nil (by simp), ih (List.cons_ne_nil _ _),
        List.intercalate_cons_of_ne_nil (List.cons_ne_nil next front)]
      simp only [List.append_assoc]

theorem getLast?_intercalate (front : List (List Char)) {last : List Char} (h : last ≠ []) :
    (['/'].intercalate (front ++ [last])).getLast? = last.getLast? := by
  obtain ⟨start, c, rfl⟩ := (List.eq_nil_or_concat last).resolve_left h
  rcases front with _ | ⟨first, front⟩
  · simp
  · rw [intercalate_concat (List.cons_ne_nil _ _), List.concat_eq_append,
      ← List.cons_append, ← List.append_assoc, List.getLast?_concat, List.getLast?_concat]

/-- A path ends with a slash and a text if that text is its last segment, but not the only one. -/
theorem slash_suffix_iff {path text : List Char} (h : '/' ∉ text) :
    '/' :: text <:+ path ↔ ∃ front, front ≠ [] ∧ splitOn '/' path = front ++ [text] := by
  constructor
  · rintro ⟨start, rfl⟩
    refine ⟨splitOn '/' start, splitOn_ne_nil _ _, ?_⟩
    rw [splitOn_eq, splitOn_eq, List.splitOn_append_cons_self, List.splitOn_eq_singleton h]
  · rintro ⟨front, hne, hsplit⟩
    rw [← intercalate_splitOn '/' path, hsplit, intercalate_concat hne]
    exact List.suffix_append _ _

theorem isDirectoryPath_iff {path last : List Char} {front : List (List Char)}
    (h : splitOn '/' path = front ++ [last]) :
    isDirectoryPath path = true ↔ front ≠ [] ∧ ¬IsName last := by
  have hlast {text : List Char} (ht : '/' ∉ text) :
      ('/' :: text).isSuffixOf path = true ↔ front ≠ [] ∧ last = text := by
    rw [List.isSuffixOf_iff_suffix, slash_suffix_iff ht, h]
    constructor
    · rintro ⟨front', hne, heq⟩
      obtain ⟨hfront, hlast⟩ := List.append_inj' heq rfl
      exact ⟨hfront ▸ hne, List.head_eq_of_cons_eq hlast⟩
    · rintro ⟨hne, rfl⟩
      exact ⟨front, hne, rfl⟩
  rw [isDirectoryPath, Bool.or_eq_true, Bool.or_eq_true, hlast List.not_mem_nil,
    hlast (by decide), hlast (by decide), IsName]
  tauto

/-! ## Forms -/

/-- What is left of a path. -/
structure PathForm where
  absolute : Bool
  parents : Nat
  names : List (List Char)
  directory : Bool
deriving DecidableEq, Repr

namespace PathForm

def read (path : List Char) : PathForm :=
  let absolute := decide (path.head? = some '/')
  let (parents, names) := walk absolute (splitOn '/' path) (0, [])
  ⟨absolute, parents, names, isDirectoryPath path && !names.isEmpty⟩

def print (form : PathForm) : List Char :=
  (if form.absolute then ['/'] else []) ++
  (List.replicate form.parents ['.', '.', '/']).flatten ++
  ['/'].intercalate form.names ++
  (if form.directory then ['/'] else [])

/-- The segments of the path that is printed. -/
def segments (form : PathForm) : List (List Char) :=
  (if form.absolute then [[]] else []) ++ List.replicate form.parents ['.', '.'] ++ form.names ++
    (if form.directory || form.names.isEmpty then [[]] else [])

/-- The forms that paths have. -/
structure Proper (form : PathForm) : Prop where
  parents : form.absolute = true → form.parents = 0
  names : ∀ n ∈ form.names, IsName n ∧ '/' ∉ n
  directory : form.directory = true → form.names ≠ []

theorem proper_read (path : List Char) : (read path).Proper where
  parents h := by
    have habsolute : decide (path.head? = some '/') = true := h
    simp only [read, habsolute]
    exact walk_absolute _ _
  names n hn := by
    rcases mem_walk (hn : n ∈ (walk _ (splitOn '/' path) (0, [])).2) with h | ⟨hmem, hname⟩
    · exact absurd h List.not_mem_nil
    · exact ⟨hname, not_mem_of_mem_splitOn hmem⟩
  directory h := by
    rw [read] at h
    simp only [Bool.and_eq_true, Bool.not_eq_true', List.isEmpty_eq_false_iff] at h
    exact h.2

/-! ## Printing and reading -/

theorem segments_ne_nil (form : PathForm) : form.segments ≠ [] := by
  simp only [segments, ne_eq, List.append_eq_nil_iff, not_and]
  intro h
  simp [h.2]

theorem print_eq_intercalate {form : PathForm} (h : form.Proper) :
    form.print = ['/'].intercalate form.segments := by
  obtain ⟨absolute, parents, names, directory⟩ := form
  have hnames : ['/'].intercalate (names ++ if directory || names.isEmpty then [[]] else []) =
      ['/'].intercalate names ++ if directory then ['/'] else [] := by
    rcases names with _ | ⟨name, names⟩
    · cases directory
      · rfl
      · exact absurd rfl (h.directory rfl)
    · cases directory
      · simp
      · exact intercalate_concat (List.cons_ne_nil _ _) []
  have hne : names ++ (if directory || names.isEmpty then [[]] else []) ≠ [] := by
    cases names <;> simp
  simp only [print, segments]
  cases absolute
  · simp only [Bool.false_eq_true, if_false, List.nil_append, List.append_assoc]
    rw [intercalate_parents hne, hnames]
  · have hroot {rest : List (List Char)} (hrest : rest ≠ []) :
        ['/'].intercalate ([[]] ++ rest) = ['/'] ++ ['/'].intercalate rest :=
      List.intercalate_cons_of_ne_nil hrest
    simp only [if_true, List.append_assoc]
    rw [hroot (List.append_ne_nil_of_right_ne_nil _ hne), intercalate_parents hne, hnames]

theorem slash_not_mem_segments {form : PathForm} (h : form.Proper) {segment : List Char}
    (hmem : segment ∈ form.segments) : '/' ∉ segment := by
  simp only [segments, List.mem_append] at hmem
  rcases hmem with ((hmem | hmem) | hmem) | hmem
  · split_ifs at hmem
    · simp_all
    · simp at hmem
  · obtain rfl := (List.mem_replicate.1 hmem).2
    decide
  · exact (h.names _ hmem).2
  · split_ifs at hmem
    · simp_all
    · simp at hmem

theorem splitOn_print {form : PathForm} (h : form.Proper) :
    splitOn '/' form.print = form.segments := by
  rw [print_eq_intercalate h, splitOn_eq]
  exact List.splitOn_intercalate '/' (fun _ => slash_not_mem_segments h) form.segments_ne_nil

theorem walk_segments {form : PathForm} (h : form.Proper) :
    walk form.absolute form.segments (0, []) = (form.parents, form.names) := by
  have hdirectory (s : Nat × List (List Char)) :
      (if form.directory || form.names.isEmpty then [[]] else []).foldl (step form.absolute) s =
        s := by
    split_ifs <;> rfl
  have hnames : ∀ n ∈ form.names, IsName n := fun n hn => (h.names n hn).1
  rw [walk_eq_foldl, segments, List.foldl_append, List.foldl_append, List.foldl_append, hdirectory,
    foldl_names hnames]
  rcases habsolute : form.absolute
  · simp [foldl_parents]
  · simp [step, h.parents habsolute]

/-- A path starts with a slash if what it is printed from starts at the root. -/
theorem head?_print {form : PathForm} (h : form.Proper) :
    form.print.head? = some '/' ↔ form.absolute = true := by
  obtain ⟨absolute, parents, names, directory⟩ := form
  cases absolute
  · refine iff_of_false ?_ Bool.false_ne_true
    rcases parents with _ | parents
    · rcases names with _ | ⟨⟨_ | ⟨c, name⟩⟩, names⟩
      · cases directory
        · simp [print]
        · exact absurd rfl (h.directory rfl)
      · exact absurd rfl (h.names [] List.mem_cons_self).1.1
      · have hc := (h.names _ List.mem_cons_self).2
        simp only [print, Bool.false_eq_true, if_false, List.replicate_zero, List.flatten_nil,
          List.nil_append, List.intercalate_cons_cons_left, List.cons_append, List.head?_cons,
          Option.some.injEq]
        exact fun heq => hc (heq ▸ List.mem_cons_self)
    · simp [print, List.replicate_succ]
  · simp [print]

theorem read_print {form : PathForm} (h : form.Proper) : read form.print = form := by
  have habsolute : decide (form.print.head? = some '/') = form.absolute := by
    rw [Bool.eq_iff_iff, decide_eq_true_eq]
    exact head?_print h
  have hdirectory : (isDirectoryPath form.print && !form.names.isEmpty) = form.directory := by
    rcases List.eq_nil_or_concat form.names with hnames | ⟨front, last, hnames⟩
    · rcases hdirectory : form.directory
      · simp [hnames]
      · exact absurd hnames (h.directory hdirectory)
    · have hlast : IsName last := (h.names last (by simp [hnames])).1
      obtain ⟨start, hstart⟩ : ∃ start, splitOn '/' form.print =
          start ++ form.names ++ if form.directory || form.names.isEmpty then [[]] else [] :=
        ⟨_, splitOn_print h⟩
      rcases hdirectory : form.directory
      · have hsplit : splitOn '/' form.print = (start ++ front) ++ [last] := by
          simp [hstart, hnames, hdirectory]
        have hfile : isDirectoryPath form.print ≠ true := fun hdir =>
          ((isDirectoryPath_iff hsplit).1 hdir).2 hlast
        simp [hfile]
      · have hsplit : splitOn '/' form.print = (start ++ front ++ [last]) ++ [[]] := by
          simp [hstart, hnames, hdirectory]
        have hdir : isDirectoryPath form.print = true :=
          (isDirectoryPath_iff hsplit).2 ⟨by simp, fun hname => hname.1 rfl⟩
        simp [hdir, hnames]
  simp [read, habsolute, splitOn_print h, walk_segments h, hdirectory]

end PathForm

theorem removeDotSegments_eq (path : List Char) :
    removeDotSegments path = (PathForm.read path).print := by
  simp [removeDotSegments, PathForm.read, PathForm.print]

/-- Dot segments are removed once and for all. -/
theorem removeDotSegments_idempotent (path : List Char) :
    removeDotSegments (removeDotSegments path) = removeDotSegments path := by
  rw [removeDotSegments_eq path, removeDotSegments_eq,
    PathForm.read_print (PathForm.proper_read path)]

/-! ## What is left of the text -/

theorem splitOn_removeDotSegments (path : List Char) :
    splitOn '/' (removeDotSegments path) = (PathForm.read path).segments := by
  rw [removeDotSegments_eq, PathForm.splitOn_print (PathForm.proper_read path)]

/-- Only slashes can be more than there were. -/
theorem countP_removeDotSegments_le (path : List Char) :
    (removeDotSegments path).countP (· ≠ '/') ≤ path.countP (· ≠ '/') := by
  have hsegments : (PathForm.read path).segments.flatten.length =
      size ((PathForm.read path).parents, (PathForm.read path).names) := by
    simp only [PathForm.segments, size]
    split_ifs <;> simp [Nat.mul_comm]
  have hwalk : size ((PathForm.read path).parents, (PathForm.read path).names) ≤ _ :=
    size_walk_le (splitOn '/' path) (0, [])
  rw [List.countP_eq_length_filter, List.countP_eq_length_filter, ← flatten_splitOn,
    ← flatten_splitOn, splitOn_removeDotSegments, hsegments]
  simpa [size] using hwalk

theorem mem_removeDotSegments {path : List Char} {c : Char} (h : c ∈ removeDotSegments path) :
    c = '/' ∨ c = '.' ∨ c ∈ path := by
  rw [or_iff_not_imp_left]
  intro hslash
  have hmem : c ∈ (splitOn '/' (removeDotSegments path)).flatten := by
    rw [flatten_splitOn, List.mem_filter]
    exact ⟨h, decide_eq_true hslash⟩
  rw [splitOn_removeDotSegments] at hmem
  obtain ⟨segment, hsegment, hc⟩ := List.mem_flatten.1 hmem
  simp only [PathForm.segments, List.mem_append] at hsegment
  rcases hsegment with ((hsegment | hsegment) | hsegment) | hsegment
  · split_ifs at hsegment <;> simp_all
  · obtain rfl := (List.mem_replicate.1 hsegment).2
    left
    simpa using hc
  · rcases mem_walk hsegment with hnil | ⟨hpart, -⟩
    · exact absurd hnil List.not_mem_nil
    · exact .inr (mem_of_mem_splitOn hpart hc)
  · split_ifs at hsegment <;> simp_all

/-- Where the last segment of a path is a name, it is the last one that is left. -/
theorem segments_of_isName {path last : List Char} {front : List (List Char)}
    (hpath : splitOn '/' path = front ++ [last]) (h : IsName last) :
    ∃ start, (PathForm.read path).segments = start ++ [last] := by
  obtain ⟨names, hnames⟩ : ∃ names, (PathForm.read path).names = names ++ [last] :=
    ⟨(walk (decide (path.head? = some '/')) front (0, [])).2, by
      simp only [PathForm.read, hpath, walk_concat_name h]⟩
  have hfile : isDirectoryPath path ≠ true := fun hdir =>
    ((isDirectoryPath_iff hpath).1 hdir).2 h
  have htail : ((PathForm.read path).directory || (PathForm.read path).names.isEmpty) ≠ true := by
    have hdirectory : (PathForm.read path).directory = false := by simp [PathForm.read, hfile]
    simp [hdirectory, hnames]
  exact ⟨_, by rw [PathForm.segments, if_neg htail, hnames, List.append_nil, ← List.append_assoc]⟩

/-- Where it is not, a directory is left. -/
theorem segments_of_not_isName {path last : List Char} {front : List (List Char)}
    (hpath : splitOn '/' path = front ++ [last]) (h : ¬IsName last) :
    ∃ start, (PathForm.read path).segments = start ++ [[]] := by
  have hdirectory :
      ((PathForm.read path).directory || (PathForm.read path).names.isEmpty) = true := by
    rcases front with _ | ⟨first, front⟩
    · have hnames : (PathForm.read path).names = [] := by
        refine List.eq_nil_iff_forall_not_mem.2 fun name hname => ?_
        rcases mem_walk (hname : name ∈ (walk _ (splitOn '/' path) (0, [])).2) with hnil | hmem
        · exact List.not_mem_nil hnil
        · rw [hpath] at hmem
          exact h (List.mem_singleton.1 hmem.1 ▸ hmem.2)
      simp [hnames]
    · have hdir := (isDirectoryPath_iff hpath).2 ⟨List.cons_ne_nil _ _, h⟩
      simp [PathForm.read, hdir, Bool.not_or_self]
  exact ⟨_, by rw [PathForm.segments, if_pos hdirectory]⟩

/-- What is left ends as the path does, or with a slash. -/
theorem getLast?_removeDotSegments {path : List Char} {c : Char}
    (h : c ∈ (removeDotSegments path).getLast?) : c = '/' ∨ c ∈ path.getLast? := by
  obtain ⟨front, last, hpath⟩ :=
    (List.eq_nil_or_concat (splitOn '/' path)).resolve_left (splitOn_ne_nil '/' path)
  rw [List.concat_eq_append] at hpath
  rw [← intercalate_splitOn '/' (removeDotSegments path), splitOn_removeDotSegments] at h
  by_cases hname : IsName last
  · obtain ⟨start, hstart⟩ := segments_of_isName hpath hname
    rw [hstart, getLast?_intercalate _ hname.1] at h
    rw [← intercalate_splitOn '/' path, hpath, getLast?_intercalate _ hname.1]
    exact .inr h
  · obtain ⟨start, hstart⟩ := segments_of_not_isName hpath hname
    rw [hstart] at h
    rcases start with _ | ⟨first, start⟩
    · exact absurd h (by simp)
    · rw [intercalate_concat (List.cons_ne_nil _ _), List.getLast?_concat] at h
      exact .inl (Option.some.inj h).symm

end Address

end JsonTypes
