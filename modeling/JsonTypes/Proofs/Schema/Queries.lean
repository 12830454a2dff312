import JsonTypes.Proofs.Schema.CanonicalPath
import JsonTypes.Proofs.Schema.NormalForm
import JsonTypes.Proofs.Schema.Spelling

/-!
# Queries of relative addresses

A relative address is taken as a path as a whole, with the query that it may have, so the slashes of
a query separate segments too. The query is kept as it is just if behind its first slash there are
only names, and perhaps a slash at the end (`Address.StaysWhole`). But even then its slashes count
for the directory that references are resolved in: a query takes no part in this just if there is
no slash in it (`DocumentId.query_apart_iff`).
-/

namespace JsonTypes

/-! ## Texts that are no URLs -/

namespace Url

/-- What counts of a text is its middle, without tabs and line ends. -/
theorem exists_middle (s : String) : ∃ before middle behind, s.toList = before ++ middle ++ behind ∧
    (∀ c ∈ before, isControlOrSpace c = true) ∧
    significant s = middle.filter (!isTabOrNewline ·) := by
  let inner := s.toList.dropWhile isControlOrSpace
  have hs : s.toList.takeWhile isControlOrSpace ++ inner = s.toList :=
    List.takeWhile_append_dropWhile
  have hinner : (inner.reverse.dropWhile isControlOrSpace).reverse ++
      (inner.reverse.takeWhile isControlOrSpace).reverse = inner := by
    rw [← List.reverse_append, List.takeWhile_append_dropWhile, List.reverse_reverse]
  refine ⟨s.toList.takeWhile isControlOrSpace, (inner.reverse.dropWhile isControlOrSpace).reverse,
    (inner.reverse.takeWhile isControlOrSpace).reverse, ?_, fun c hc => ?_, rfl⟩
  · rw [List.append_assoc, hinner, hs]
  · exact List.all_eq_true.1 List.all_takeWhile c hc

/-- A text is read as a URL only if nothing but its scheme, and what does not count, stands before a
colon. -/
theorem exists_colon_of_parse? {s : String} {u : Url} (h : parse? s = some u) :
    ∃ front back, s.toList = front ++ ':' :: back ∧
      ∀ c ∈ front, isControlOrSpace c = true ∨ isTabOrNewline c = true ∨ isSchemeChar c = true := by
  obtain ⟨⟨scheme, rest⟩, hscheme, -⟩ := Option.bind_eq_some_iff.1 h
  have hcolon : (significant s).dropWhile isSchemeChar = ':' :: rest := by
    unfold scheme? at hscheme
    split at hscheme
    · split_ifs at hscheme
      cases hscheme
      assumption
    · cases hscheme
  have hsplit := List.takeWhile_append_dropWhile (p := isSchemeChar) (l := significant s)
  obtain ⟨before, middle, behind, hs, hbefore, hmiddle⟩ := exists_middle s
  rw [hcolon, hmiddle] at hsplit
  obtain ⟨name, more, rfl, hname, hmore⟩ := List.filter_eq_append_iff.1 hsplit.symm
  obtain ⟨skipped, back, rfl, hskipped, -, -⟩ := List.filter_eq_cons_iff.1 hmore
  refine ⟨before ++ name ++ skipped, back ++ behind, by simp [hs], fun c hc => ?_⟩
  rcases List.mem_append.1 hc with hc | hc
  · rcases List.mem_append.1 hc with hc | hc
    · exact .inl (hbefore c hc)
    · by_cases htab : isTabOrNewline c = true
      · exact .inr (.inl htab)
      · have hmem : c ∈ name.filter (!isTabOrNewline ·) :=
          List.mem_filter.2 ⟨hc, by simpa using htab⟩
        rw [hname] at hmem
        exact .inr (.inr (List.all_eq_true.1 List.all_takeWhile c hmem))
  · have htab := hskipped c hc
    exact .inr (.inl (by simpa using htab))

theorem parse?_eq_none_of_not_mem {s : String} (h : ':' ∉ s.toList) : parse? s = none := by
  rcases hparse : parse? s with _ | u
  · rfl
  · obtain ⟨front, back, hs, -⟩ := exists_colon_of_parse? hparse
    simp [hs] at h

/-- A question mark keeps a colon behind it from ending a scheme. -/
theorem parse?_eq_none_of_query {s : String} {path query : List Char}
    (hs : s.toList = path ++ '?' :: query) (h : ':' ∉ path) : parse? s = none := by
  rcases hparse : parse? s with _ | u
  · rfl
  obtain ⟨front, back, heq, hfront⟩ := exists_colon_of_parse? hparse
  rw [hs] at heq
  rcases List.append_eq_append_iff.1 heq with ⟨more, rfl, hmore⟩ | ⟨more, rfl, hmore⟩
  · rcases more with _ | ⟨c, more⟩
    · cases hmore
    · obtain rfl := List.head_eq_of_cons_eq hmore
      have hmark := hfront '?' (List.mem_append_right _ List.mem_cons_self)
      exact absurd hmark (by decide)
  · rcases more with _ | ⟨c, more⟩
    · cases hmore
    · obtain rfl := List.head_eq_of_cons_eq hmore
      exact absurd (List.mem_append_right _ List.mem_cons_self) h

end Url

namespace Address

open Text

variable {path query name last first : List Char} {front rest names tail : List (List Char)}

/-! ## Segments of texts -/

theorem intercalate_join (front : List (List Char)) (last first : List Char)
    (rest : List (List Char)) :
    ['/'].intercalate (front ++ [last]) ++ ['/'].intercalate (first :: rest) =
      ['/'].intercalate (front ++ (last ++ first) :: rest) := by
  induction front with
  | nil =>
    rcases rest with _ | ⟨next, rest⟩
    · simp
    · rw [List.nil_append, List.nil_append, List.intercalate_singleton,
        List.intercalate_cons_of_ne_nil (List.cons_ne_nil _ _),
        List.intercalate_cons_of_ne_nil (List.cons_ne_nil _ _)]
      simp only [List.append_assoc]
  | cons segment front ih =>
    have hlast : front ++ [last] ≠ [] := by simp
    have hjoin : front ++ (last ++ first) :: rest ≠ [] := by simp
    rw [List.cons_append, List.cons_append, List.intercalate_cons_of_ne_nil hlast,
      List.intercalate_cons_of_ne_nil hjoin, ← ih]
    simp only [List.append_assoc]

/-- Where two texts are put together, so are the last segment and the first one. -/
theorem splitOn_append (hpath : splitOn '/' path = front ++ [last])
    (hquery : splitOn '/' query = first :: rest) :
    splitOn '/' (path ++ query) = front ++ (last ++ first) :: rest := by
  have hfront : ∀ s ∈ front ++ [last], '/' ∉ s := fun s hs =>
    not_mem_of_mem_splitOn (hpath ▸ hs)
  have hrest : ∀ s ∈ first :: rest, '/' ∉ s := fun s hs => not_mem_of_mem_splitOn (hquery ▸ hs)
  have hslash : ∀ s ∈ front ++ (last ++ first) :: rest, '/' ∉ s := by
    intro s hs
    rcases List.mem_append.1 hs with hs | hs
    · exact hfront s (List.mem_append_left _ hs)
    · rcases List.mem_cons.1 hs with rfl | hs
      · rw [List.mem_append, not_or]
        exact ⟨hfront last (by simp), hrest first List.mem_cons_self⟩
      · exact hrest s (List.mem_cons_of_mem _ hs)
  rw [← intercalate_splitOn '/' path, ← intercalate_splitOn '/' query, hpath, hquery,
    intercalate_join, splitOn_eq]
  exact List.splitOn_intercalate '/' hslash (by simp)

theorem splitOn_name (h : '/' ∉ name) : splitOn '/' name = [name] := by
  rw [splitOn_eq, List.splitOn_eq_singleton h]

/-- A directory has the segments of the path but the last one. -/
theorem splitOn_directoryOf (h : splitOn '/' path = front ++ [last]) :
    splitOn '/' (Url.directoryOf path) = front ++ [[]] := by
  obtain ⟨start, final, hsplit⟩ := (List.eq_nil_or_concat
    (splitOn '/' (Url.directoryOf path))).resolve_left (splitOn_ne_nil _ _)
  rw [List.concat_eq_append] at hsplit
  have hfinal : final = [] := by
    rcases Url.directoryOf_cases path with hnil | hslash
    · rw [hnil] at hsplit
      have hempty : [] ++ [[]] = start ++ [final] := hsplit
      exact (List.head_eq_of_cons_eq (List.append_inj' hempty rfl).2).symm
    · obtain ⟨before, hbefore⟩ := List.getLast?_eq_some_iff.1 hslash
      obtain ⟨start', -, hsplit'⟩ := (slash_suffix_iff List.not_mem_nil).1 ⟨before, hbefore.symm⟩
      rw [hsplit] at hsplit'
      exact List.head_eq_of_cons_eq (List.append_inj' hsplit' rfl).2
  subst hfinal
  have hjoin := splitOn_append hsplit (splitOn_name (Url.slash_not_mem_lastSegment path))
  rw [Url.directoryOf_append_lastSegment, h] at hjoin
  rw [hsplit, (List.append_inj' hjoin rfl).1]

/-- What is put behind a path leaves its directory just if it has no slash. -/
theorem directoryOf_append_eq_iff :
    Url.directoryOf (path ++ query) = Url.directoryOf path ↔ '/' ∉ query := by
  obtain ⟨front, last, hpath⟩ :=
    (List.eq_nil_or_concat (splitOn '/' path)).resolve_left (splitOn_ne_nil _ _)
  rw [List.concat_eq_append] at hpath
  have hdirectory := splitOn_directoryOf hpath
  constructor
  · intro heq hslash
    obtain ⟨first, rest, hquery⟩ := List.exists_cons_of_ne_nil (splitOn_ne_nil '/' query)
    have hrest : rest ≠ [] := by
      rintro rfl
      exact not_mem_of_mem_splitOn (hquery ▸ List.mem_singleton_self first)
        (by rwa [← intercalate_splitOn '/' query, hquery, List.intercalate_singleton] at hslash)
    obtain ⟨init, final, rfl⟩ := (List.eq_nil_or_concat rest).resolve_left hrest
    have hjoin := splitOn_append hpath hquery
    rw [List.concat_eq_append, ← List.cons_append, ← List.append_assoc] at hjoin
    rw [← heq, splitOn_directoryOf hjoin] at hdirectory
    have hlength := congrArg List.length hdirectory
    simp at hlength
  · intro hslash
    have hjoin := splitOn_directoryOf (splitOn_append hpath (splitOn_name hslash))
    rw [← intercalate_splitOn '/' (Url.directoryOf (path ++ query)), hjoin, ← hdirectory,
      intercalate_splitOn]

theorem removeDotSegments_eq_intercalate (path : List Char) :
    removeDotSegments path = ['/'].intercalate (PathForm.read path).segments := by
  rw [← intercalate_splitOn '/' (removeDotSegments path), splitOn_removeDotSegments]

/-! ## Names at the end of a path -/

/-- What is left of the segments before the last names. -/
def kept (absolute : Bool) (front : List (List Char)) : List (List Char) :=
  (if absolute then [[]] else []) ++
    List.replicate (front.foldl (step absolute) (0, [])).1 ['.', '.'] ++
    (front.foldl (step absolute) (0, [])).2

/-- The names that a path ends with stay as they are, and a slash behind them too. -/
theorem segments_of_names (hsplit : splitOn '/' path = front ++ names ++ tail) (hne : names ≠ [])
    (hnames : ∀ n ∈ names, IsName n) (htail : tail = [] ∨ tail = [[]]) :
    (PathForm.read path).segments = kept (startsAtRoot path) front ++ names ++ tail := by
  have htarget : target path = ((front.foldl (step (startsAtRoot path)) (0, [])).1,
      (front.foldl (step (startsAtRoot path)) (0, [])).2 ++ names) := by
    rw [target, hsplit, List.foldl_append, List.foldl_append, foldl_names hnames]
    rcases htail with rfl | rfl <;> rfl
  rw [target_eq_read, Prod.mk.injEq] at htarget
  obtain ⟨init, final, rfl⟩ := (List.eq_nil_or_concat names).resolve_left hne
  rw [List.concat_eq_append] at *
  have hfinal : IsName final := hnames final (by simp)
  have hdirectory : isDirectoryPath path = !tail.isEmpty := by
    rcases htail with rfl | rfl
    · rw [List.append_nil, ← List.append_assoc] at hsplit
      exact Bool.eq_false_iff.2 fun h => ((isDirectoryPath_iff hsplit).1 h).2 hfinal
    · exact (isDirectoryPath_iff hsplit).2 ⟨by simp, fun h => h.1 rfl⟩
  have hlast : ((PathForm.read path).directory || (PathForm.read path).names.isEmpty) =
      !tail.isEmpty := by
    have hread : (PathForm.read path).directory =
        (isDirectoryPath path && !(PathForm.read path).names.isEmpty) := rfl
    have hsome : (PathForm.read path).names.isEmpty = false :=
      List.isEmpty_eq_false_iff.2 (by simp [htarget.2])
    rw [hread, hdirectory, hsome, Bool.not_false, Bool.and_true, Bool.or_false]
  rw [PathForm.segments, hlast, htarget.1, htarget.2, absolute_read, kept]
  rcases htail with rfl | rfl <;> simp

/-! ## Queries behind a name -/

/-- Behind its first slash a query has only names, and perhaps a slash at the end. -/
def StaysWhole (query : List Char) : Prop :=
  ∃ first names tail, splitOn '/' query = first :: (names ++ tail) ∧ (∀ n ∈ names, IsName n) ∧
    (tail = [] ∨ tail = [[]])

theorem staysWhole_of_not_mem (h : '/' ∉ query) : StaysWhole query :=
  ⟨query, [], [], splitOn_name h, nofun, .inl rfl⟩

theorem isName_of_mem_mark {segment : List Char} (h : '?' ∈ segment) : IsName segment := by
  refine ⟨?_, ?_, ?_⟩ <;> rintro rfl <;> exact absurd h (by decide)

theorem splitOn_query (h : splitOn '/' query = first :: rest) :
    splitOn '/' ('?' :: query) = ('?' :: first) :: rest := by
  rw [splitOn, h]
  exact if_neg (by decide)

section Query

variable (hpath : splitOn '/' path = front ++ [last]) (hlast : IsName last)

include hpath hlast

theorem startsAtRoot_query (query : List Char) :
    startsAtRoot (path ++ '?' :: query) = startsAtRoot path := by
  have hne : path ≠ [] := by
    rintro rfl
    have hempty : [] ++ [[]] = front ++ [last] := hpath
    exact hlast.1 (List.head_eq_of_cons_eq (List.append_inj' hempty rfl).2).symm
  obtain ⟨c, path, rfl⟩ := List.exists_cons_of_ne_nil hne
  rfl

theorem segments_of_last_name :
    (PathForm.read path).segments = kept (startsAtRoot path) front ++ [last] := by
  have hnames : ∀ n ∈ [last], IsName n := by simpa using hlast
  have hsplit : splitOn '/' path = front ++ [last] ++ [] := by rw [hpath, List.append_nil]
  rw [segments_of_names hsplit (List.cons_ne_nil _ _) hnames (.inl rfl), List.append_nil]

/-- The query behind a name stays as it is just if its own segments do. -/
theorem removeDotSegments_query_iff :
    removeDotSegments (path ++ '?' :: query) = removeDotSegments path ++ '?' :: query ↔
      StaysWhole query := by
  obtain ⟨first, rest, hquery⟩ := List.exists_cons_of_ne_nil (splitOn_ne_nil '/' query)
  have hmark := splitOn_query hquery
  have hsplit := splitOn_append hpath hmark
  have hname : IsName (last ++ '?' :: first) := isName_of_mem_mark (by simp)
  have hsegments := segments_of_last_name hpath hlast
  constructor
  · intro heq
    have hkept := splitOn_append (hsegments ▸ splitOn_removeDotSegments path) hmark
    rw [← heq, splitOn_removeDotSegments] at hkept
    have hproper := PathForm.proper_read (path ++ '?' :: query)
    obtain ⟨names, tail, rfl, hnames, htail⟩ :=
      PathForm.exists_names_of_segments hproper hname hkept
    exact ⟨first, names, tail, hquery, hnames, htail⟩
  · rintro ⟨first', names, tail, hquery', hnames, htail⟩
    obtain ⟨rfl, rfl⟩ := List.cons.inj (hquery.symm.trans hquery')
    have hall : ∀ n ∈ (last ++ '?' :: first) :: names, IsName n :=
      List.forall_mem_cons.2 ⟨hname, hnames⟩
    rw [← List.cons_append, ← List.append_assoc] at hsplit
    rw [removeDotSegments_eq_intercalate, removeDotSegments_eq_intercalate,
      segments_of_names hsplit (List.cons_ne_nil _ _) hall htail, hsegments,
      startsAtRoot_query hpath hlast, ← intercalate_splitOn '/' ('?' :: query), hmark,
      intercalate_join]
    simp

end Query

/-! ## Directories -/

/-- In the directory of what is left of a path, a name is left too. -/
theorem removeDotSegments_directoryOf (path : List Char) (hname : IsName name)
    (hslash : '/' ∉ name) :
    removeDotSegments (Url.directoryOf (removeDotSegments path) ++ name) =
      Url.directoryOf (removeDotSegments path) ++ name := by
  let form := PathForm.read path
  have hform : form.Proper := PathForm.proper_read path
  obtain ⟨front, last, hsegments⟩ :=
    (List.eq_nil_or_concat form.segments).resolve_left form.segments_ne_nil
  rw [List.concat_eq_append] at hsegments
  have hsplit : splitOn '/' (Url.directoryOf (removeDotSegments path) ++ name) = front ++ [name] :=
    splitOn_append (splitOn_directoryOf ((splitOn_removeDotSegments path).trans hsegments))
      (splitOn_name hslash)
  obtain ⟨names, hsub, hfront⟩ := PathForm.exists_names_of_init hsegments
  let sibling : PathForm := ⟨form.absolute, form.parents, names ++ [name], false⟩
  have hsibling : sibling.Proper :=
    { parents := hform.parents
      names := fun n hn => by
        rcases List.mem_append.1 hn with hn | hn
        · exact hform.names n (hsub hn)
        · exact List.mem_singleton.1 hn ▸ ⟨hname, hslash⟩
      directory := fun h => absurd h Bool.false_ne_true }
  have hprint : Url.directoryOf (removeDotSegments path) ++ name = sibling.print := by
    have hnames : (names ++ [name]).isEmpty = false := List.isEmpty_eq_false_iff.2 (by simp)
    rw [PathForm.print_eq_intercalate hsibling, PathForm.segments, hnames,
      ← intercalate_splitOn '/' (Url.directoryOf (removeDotSegments path) ++ name), hsplit, hfront]
    simp [sibling]
  rw [hprint, removeDotSegments_eq, PathForm.read_print hsibling]

/-! ## Addresses without blanks -/

/-- A relative address without a query, which leads to a file. -/
structure IsRelative (path : List Char) : Prop where
  mark : '?' ∉ path
  sign : '#' ∉ path
  colon : ':' ∉ path
  blank : ∀ c ∈ path, isBlank c = false
  name : ∃ front last, splitOn '/' path = front ++ [last] ∧ IsName last

structure IsQuery (query : List Char) : Prop where
  sign : '#' ∉ query
  blank : ∀ c ∈ query, isBlank c = false

/-- A reference that is resolved in a directory. -/
structure IsReference (reference : List Char) : Prop where
  text : reference ≠ []
  mark : '?' ∉ reference
  sign : '#' ∉ reference
  colon : ':' ∉ reference
  blank : ∀ c ∈ reference, isBlank c = false
  slash : reference.head? ≠ some '/'

theorem no_blank_iff {cs : List Char} : (∀ c ∈ cs, isBlank c = false) ↔ cs.any isBlank = false := by
  simp

theorem trim_of_no_blank {cs : List Char} (h : ∀ c ∈ cs, isBlank c = false) : trim cs = cs :=
  trim_eq_self (fun c hc => h c (List.mem_of_mem_head? hc))
    fun c hc => h c (List.mem_of_getLast? hc)

theorem no_blank_removeDotSegments (h : ∀ c ∈ path, isBlank c = false) :
    ∀ c ∈ removeDotSegments path, isBlank c = false := by
  intro c hc
  rcases mem_removeDotSegments hc with rfl | rfl | hc
  · decide
  · decide
  · exact h c hc

theorem no_blank_directoryOf (h : ∀ c ∈ path, isBlank c = false)
    (hname : ∀ c ∈ name, isBlank c = false) :
    ∀ c ∈ Url.directoryOf path ++ name, isBlank c = false := by
  intro c hc
  rcases List.mem_append.1 hc with hc | hc
  · exact h c (Url.directoryOf_subset _ hc)
  · exact hname c hc

end Address

namespace DocumentId

open Address Text

/-- References lead to the same from both documents. -/
def ResolveAlike (d d' : DocumentId) : Prop :=
  ∀ reference : String, IsReference reference.toList → d.resolve reference = d'.resolve reference

theorem toList_parse {raw : String} (hsign : '#' ∉ raw.toList)
    (hblank : ∀ c ∈ raw.toList, isBlank c = false) (hurl : Url.parse? raw = none) :
    (DocumentId.parse raw).text.toList = removeDotSegments raw.toList := by
  rw [DocumentId.parse, splitFragment_of_not_mem hsign, ofChars, String.toList_ofList,
    normalize_of_trim (trim_of_no_blank hblank), String.ofList_toList, hurl]

theorem resolve_of_relative {d : DocumentId} {reference : String} (hd : Url.parse? d.text = none)
    (hreference : IsReference reference.toList) : d.resolve reference =
      ⟨ofChars (normalize (Url.directoryOf d.text.toList ++ reference.toList)), none⟩ := by
  have hurl : Url.parse? reference = none := Url.parse?_eq_none_of_not_mem hreference.colon
  have htext : reference.toList.isEmpty = false := List.isEmpty_eq_false_iff.2 hreference.text
  simp only [DocumentId.resolve, splitFragment_of_not_mem hreference.sign, htext, resolveDocument,
    String.ofList_toList, hurl, hd, Option.isSome_none, Bool.false_eq_true, if_false,
    if_neg hreference.slash, nonEmpty]

/-- What a name in the directory of a document comes to. -/
def sibling (d : DocumentId) : List Char := Url.directoryOf d.text.toList ++ ['x']

theorem isReference_name : IsReference "x".toList :=
  ⟨by decide, by decide, by decide, by decide, no_blank_iff.2 (by decide), by decide⟩

theorem normalize_sibling {d : DocumentId} {path : List Char}
    (hd : d.text.toList = removeDotSegments path) (hblank : ∀ c ∈ path, isBlank c = false) :
    normalize d.sibling =
      (Url.parse? (String.ofList d.sibling)).elim d.sibling Url.renderChars := by
  have htrim : trim d.sibling = d.sibling :=
    trim_of_no_blank (no_blank_directoryOf (hd ▸ no_blank_removeDotSegments hblank)
      (no_blank_iff.2 (by decide)))
  have hpath : removeDotSegments d.sibling = d.sibling := by
    rw [sibling, hd]
    exact removeDotSegments_directoryOf path ⟨by decide, by decide, by decide⟩ (by decide)
  rw [normalize_of_trim htrim, hpath]
  cases Url.parse? (String.ofList d.sibling) <;> rfl

/-- In documents that are no URLs, references are resolved alike just if the directories are the
same. -/
theorem resolveAlike_iff {d d' : DocumentId} {path path' : List Char}
    (hd : d.text.toList = removeDotSegments path) (hd' : d'.text.toList = removeDotSegments path')
    (hblank : ∀ c ∈ path, isBlank c = false) (hblank' : ∀ c ∈ path', isBlank c = false)
    (hurl : Url.parse? d.text = none) (hcolon' : ':' ∉ d'.text.toList) :
    ResolveAlike d d' ↔ Url.directoryOf d.text.toList = Url.directoryOf d'.text.toList := by
  have hurl' := Url.parse?_eq_none_of_not_mem hcolon'
  constructor
  · intro h
    have hx := h "x" isReference_name
    rw [resolve_of_relative hurl isReference_name, resolve_of_relative hurl' isReference_name,
      SchemaUri.mk.injEq, ofChars, ofChars, DocumentId.mk.injEq] at hx
    have hsame : normalize d.sibling = normalize d'.sibling := String.ofList_injective hx.1
    have hsibling' : ':' ∉ (String.ofList d'.sibling).toList := by
      rw [String.toList_ofList]
      intro hmem
      rcases List.mem_append.1 hmem with hmem | hmem
      · exact hcolon' (Url.directoryOf_subset _ hmem)
      · exact absurd hmem (by decide)
    rw [normalize_sibling hd hblank, normalize_sibling hd' hblank',
      Url.parse?_eq_none_of_not_mem hsibling'] at hsame
    rcases hparse : Url.parse? (String.ofList d.sibling) with _ | u
    · rw [hparse] at hsame
      exact List.append_cancel_right hsame
    · -- a URL that the one is read as has a colon, and the other has none
      rw [hparse] at hsame
      have hprint : u.renderChars = d'.sibling := hsame
      rw [String.toList_ofList, ← hprint] at hsibling'
      exact absurd (colon_mem_renderChars u) hsibling'
  · intro h reference hreference
    rw [resolve_of_relative hurl hreference, resolve_of_relative hurl' hreference, h]

section Query

variable {p q : String} (hp : IsRelative p.toList) (hq : IsQuery q.toList)

theorem toList_append_query (s q : String) :
    (s ++ "?" ++ q).toList = s.toList ++ '?' :: q.toList := by
  simp

include hp

theorem toList_parse_relative :
    (DocumentId.parse p).text.toList = removeDotSegments p.toList :=
  toList_parse hp.sign hp.blank (Url.parse?_eq_none_of_not_mem hp.colon)

theorem no_colon_parse_relative : ':' ∉ (DocumentId.parse p).text.toList := by
  rw [toList_parse_relative hp]
  intro hmem
  rcases mem_removeDotSegments hmem with heq | heq | hmem
  · exact absurd heq (by decide)
  · exact absurd heq (by decide)
  · exact hp.colon hmem

include hq

theorem no_blank_query : ∀ c ∈ p.toList ++ '?' :: q.toList, isBlank c = false := by
  intro c hc
  rw [List.mem_append, List.mem_cons] at hc
  rcases hc with hc | rfl | hc
  · exact hp.blank c hc
  · decide
  · exact hq.blank c hc

/-- With its query too, an address is taken as a path. -/
theorem toList_parse_query : (DocumentId.parse (p ++ "?" ++ q)).text.toList =
    removeDotSegments (p.toList ++ '?' :: q.toList) := by
  have happend := toList_append_query p q
  have hsign : '#' ∉ (p ++ "?" ++ q).toList := by simp [happend, hp.sign, hq.sign]
  have hblank : ∀ c ∈ (p ++ "?" ++ q).toList, isBlank c = false := happend ▸ no_blank_query hp hq
  rw [toList_parse hsign hblank (Url.parse?_eq_none_of_query happend hp.colon), happend]

end Query

/-- Behind an address the query is kept just if it stays whole, references are resolved alike with
it just if that leaves the directory as it is, and both are so just if it has no slash. -/
theorem query_apart_iff {p q : String} (hp : IsRelative p.toList) (hq : IsQuery q.toList) :
    let d := DocumentId.parse p
    let d' := DocumentId.parse (p ++ "?" ++ q)
    (d'.text = d.text ++ "?" ++ q ↔ StaysWhole q.toList) ∧
    (d'.isAbsolute = false → (ResolveAlike d' d ↔
      Url.directoryOf d'.text.toList = Url.directoryOf d.text.toList)) ∧
    (d'.text = d.text ++ "?" ++ q ∧ ResolveAlike d' d ↔ '/' ∉ q.toList) := by
  intro d d'
  obtain ⟨front, last, hsplit, hlast⟩ := hp.name
  have hd : d.text.toList = removeDotSegments p.toList := toList_parse_relative hp
  have hd' : d'.text.toList = removeDotSegments (p.toList ++ '?' :: q.toList) :=
    toList_parse_query hp hq
  have hcolon : ':' ∉ d.text.toList := no_colon_parse_relative hp
  have htext : d'.text = d.text ++ "?" ++ q ↔ StaysWhole q.toList := by
    rw [← String.toList_inj, toList_append_query, hd, hd', removeDotSegments_query_iff hsplit hlast]
  have halike (hurl : Url.parse? d'.text = none) :=
    resolveAlike_iff hd' hd (no_blank_query hp hq) hp.blank hurl hcolon
  have hwhole (h : d'.text = d.text ++ "?" ++ q) : (ResolveAlike d' d ↔ '/' ∉ q.toList) := by
    have hquery : d'.text.toList = d.text.toList ++ '?' :: q.toList := by
      rw [h, toList_append_query]
    rw [halike (Url.parse?_eq_none_of_query hquery hcolon), hquery, directoryOf_append_eq_iff,
      List.mem_cons, not_or, and_iff_right (by decide)]
  refine ⟨htext, fun habsolute => halike ?_, fun ⟨hkept, hsame⟩ => (hwhole hkept).1 hsame,
    fun hslash => ?_⟩
  · rwa [isAbsolute, Option.isSome_eq_false_iff, Option.isNone_iff_eq_none] at habsolute
  · have hkept := htext.2 (staysWhole_of_not_mem hslash)
    exact ⟨hkept, (hwhole hkept).2 hslash⟩

/-- A version behind a file takes no part. -/
theorem query_apart_iff_version :
    let d := DocumentId.parse "./schemas/../a.json"
    let d' := DocumentId.parse ("./schemas/../a.json" ++ "?" ++ "version=1:2")
    IsRelative "./schemas/../a.json".toList ∧ IsQuery "version=1:2".toList ∧
      d'.text = d.text ++ "?" ++ "version=1:2" ∧ ResolveAlike d' d := by
  intro d d'
  have hp : IsRelative "./schemas/../a.json".toList := by
    refine ⟨by decide, by decide, by decide, no_blank_iff.2 (by decide),
      [".".toList, "schemas".toList, "..".toList], "a.json".toList, by decide +kernel, ?_⟩
    exact ⟨by decide, by decide, by decide⟩
  have hq : IsQuery "version=1:2".toList := ⟨by decide, no_blank_iff.2 (by decide)⟩
  exact ⟨hp, hq, (query_apart_iff hp hq).2.2.2 (by decide)⟩

/-- The slashes and dots of a query are taken for those of a path. -/
theorem query_not_apart :
    let d := DocumentId.parse "a"
    let d' := DocumentId.parse ("a" ++ "?" ++ "x/y/../z")
    IsRelative "a".toList ∧ IsQuery "x/y/../z".toList ∧ IsReference "b".toList ∧
      d'.text ≠ d.text ++ "?" ++ "x/y/../z" ∧ d'.resolve "b" ≠ d.resolve "b" := by
  have hp : IsRelative "a".toList := by
    refine ⟨by decide, by decide, by decide, no_blank_iff.2 (by decide), [], "a".toList,
      by decide +kernel, ?_⟩
    exact ⟨by decide, by decide, by decide⟩
  have hq : IsQuery "x/y/../z".toList := ⟨by decide, no_blank_iff.2 (by decide)⟩
  have hreference : IsReference "b".toList :=
    ⟨by decide, by decide, by decide, by decide, no_blank_iff.2 (by decide), by decide⟩
  exact ⟨hp, hq, hreference, by decide +kernel, by decide +kernel⟩

end DocumentId

end JsonTypes
