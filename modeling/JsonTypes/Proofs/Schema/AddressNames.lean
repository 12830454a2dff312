import JsonTypes.Proofs.Schema.Names

/-!
# What an address calls its schema

The last segment of a fragment that is not empty names the schema, unescaped and without the ending
that it may have. It is only looked for among the last two segments: with two empty ones or more
behind it the fragment is passed over, and the schema is named as if it had none, after the file of
its document (`name?_of_address`).
-/

namespace JsonTypes

/-! ## Files of documents -/

namespace DocumentId

/-- What stands between the query and the last slash before it. -/
def HasFile (d : DocumentId) (file : List Char) : Prop :=
  ∃ directory query, d.text.toList = directory ++ file ++ query ∧
    (directory = [] ∨ directory.getLast? = some '/') ∧ '/' ∉ file ∧
    '?' ∉ directory ++ file ∧ (query = [] ∨ query.head? = some '?')

theorem hasFile_lastSegment (d : DocumentId) :
    d.HasFile (Url.lastSegment (d.text.toList.takeWhile (· ≠ '?'))) := by
  have hpath : '?' ∉ d.text.toList.takeWhile (· ≠ '?') := fun hmem =>
    absurd (List.all_eq_true.1 List.all_takeWhile _ hmem) (by decide)
  have hquery := List.head?_dropWhile_not (· ≠ '?') d.text.toList
  refine ⟨Url.directoryOf (d.text.toList.takeWhile (· ≠ '?')),
    d.text.toList.dropWhile (· ≠ '?'), ?_, Url.directoryOf_cases _,
    Url.slash_not_mem_lastSegment _, ?_, ?_⟩
  · rw [Url.directoryOf_append_lastSegment, List.takeWhile_append_dropWhile]
  · rwa [Url.directoryOf_append_lastSegment]
  · rcases hdrop : d.text.toList.dropWhile (· ≠ '?') with _ | ⟨c, rest⟩
    · exact .inl rfl
    · rw [hdrop] at hquery
      right
      simpa using hquery

end DocumentId

namespace SchemaUri

open Text

variable {uri : SchemaUri} {segment : List Char} {empty : Nat}

/-- A document is named after its file, without the ending, unless that leaves nothing or the
document is synthetic. -/
def NamedByFile (d : DocumentId) (name : Option String) : Prop :=
  ∃ file stem, d.HasFile file ∧ Stripped file stem ∧
    name = if d.isSynthetic = true ∨ stem = [] then none else some (String.ofList stem)

theorem namedByFile_nameOfFile? (uri : SchemaUri) : NamedByFile uri.document uri.nameOfFile? := by
  refine ⟨_, _, uri.document.hasFile_lastSegment, stripped_iff.2 rfl, ?_⟩
  unfold nameOfFile? DocumentId.fileName?
  by_cases hsynthetic : uri.document.isSynthetic = true
  · rw [if_pos hsynthetic, if_pos (.inl hsynthetic)]
  rw [if_neg hsynthetic]
  rcases Url.lastSegment (uri.document.text.toList.takeWhile (· ≠ '?')) with _ | ⟨c, rest⟩
  · rw [if_pos (.inr (by decide))]
    rfl
  · by_cases hstem : removeExtension (c :: rest) = []
    · simp [hstem]
    · simp [hstem, hsynthetic, Option.filter]

/-! ## Segments of fragments -/

/-- The last segment of the fragment that is not empty, and how many empty ones stand behind it. -/
def LastSegment (uri : SchemaUri) (segment : List Char) (empty : Nat) : Prop :=
  ∃ fragment front, uri.fragment = some fragment ∧ segment ≠ [] ∧
    splitOn '/' fragment.toList = front ++ segment :: List.replicate empty []

/-- A segment names a schema, unescaped and without the ending. -/
def NamedBySegment (segment : List Char) (name : Option String) : Prop :=
  ∃ stem, Stripped (Pointer.unescapeToken segment) stem ∧ name = some (String.ofList stem)

theorem namedBySegment_of_near (h : uri.LastSegment segment empty) (hnear : empty < 2) :
    NamedBySegment segment uri.name? := by
  obtain ⟨fragment, front, hfragment, hne, hsplit⟩ := h
  have hfound : lastFragmentSegment? fragment = some segment := by
    have hsegment : segment.isEmpty = false := List.isEmpty_eq_false_iff.2 hne
    rw [lastFragmentSegment?, hsplit]
    obtain rfl | rfl : empty = 0 ∨ empty = 1 := by omega
    · simp [hsegment]
    · simp [hsegment]
  refine ⟨_, stripped_iff.2 rfl, ?_⟩
  rw [name?, nameOfFragment?, hfragment, Option.bind_some, hfound]
  rfl

theorem nameOfFragment?_of_far (h : uri.LastSegment segment empty) (hfar : 2 ≤ empty) :
    uri.nameOfFragment? = none := by
  obtain ⟨fragment, front, hfragment, -, hsplit⟩ := h
  obtain ⟨more, rfl⟩ := Nat.exists_eq_add_of_le hfar
  have hnone : lastFragmentSegment? fragment = none := by
    rw [lastFragmentSegment?, hsplit, List.reverse_append, List.reverse_cons,
      List.reverse_replicate, Nat.add_comm, List.replicate_succ, List.replicate_succ]
    rfl
  rw [nameOfFragment?, hfragment, Option.bind_some, hnone]
  rfl

/-- What a fragment names the schema after is its last segment that is not empty. -/
theorem exists_lastSegment {fragment : String} (hfragment : uri.fragment = some fragment)
    (h : lastFragmentSegment? fragment = some segment) :
    ∃ empty, uri.LastSegment segment empty := by
  obtain ⟨hne, behind, front, htake, hbehind⟩ := List.find?_eq_some_iff_append.1 h
  have hempty : behind.reverse = List.replicate behind.length [] := by
    refine List.eq_replicate_iff.2 ⟨List.length_reverse, fun s hs => ?_⟩
    simpa using hbehind s (List.mem_reverse.1 hs)
  have hsplit : (splitOn '/' fragment.toList).reverse =
      behind ++ segment :: (front ++ (splitOn '/' fragment.toList).reverse.drop 2) := by
    rw [← List.cons_append, ← List.append_assoc, ← htake, List.take_append_drop]
  have hlast := List.reverse_eq_iff.1 hsplit
  rw [List.reverse_append, List.reverse_cons, hempty, List.append_assoc,
    List.singleton_append] at hlast
  exact ⟨behind.length, fragment, _, hfragment, by simpa using hne, hlast⟩

theorem nameOfFragment?_of_none (h : ∀ segment empty, ¬uri.LastSegment segment empty) :
    uri.nameOfFragment? = none := by
  rw [nameOfFragment?, Option.map_eq_none_iff, Option.bind_eq_none_iff]
  intro fragment hfragment
  rcases hsegment : lastFragmentSegment? fragment with _ | segment
  · rfl
  · obtain ⟨empty, hlast⟩ := exists_lastSegment hfragment hsegment
    exact absurd hlast (h segment empty)

/-- The last segment that is not empty names the schema if at most one empty one stands behind it.
Otherwise, as without such a segment, the file of the document does. -/
theorem name?_of_address (uri : SchemaUri) :
    (∀ segment empty, uri.LastSegment segment empty →
      if empty < 2 then NamedBySegment segment uri.name?
      else NamedByFile uri.document uri.name?) ∧
    ((∀ segment empty, ¬uri.LastSegment segment empty) →
      NamedByFile uri.document uri.name?) := by
  have hfile (h : uri.nameOfFragment? = none) : NamedByFile uri.document uri.name? := by
    rw [name?, h]
    exact namedByFile_nameOfFile? uri
  refine ⟨fun segment empty h => ?_, fun h => hfile (nameOfFragment?_of_none h)⟩
  split_ifs with hnear
  · exact namedBySegment_of_near h hnear
  · exact hfile (nameOfFragment?_of_far h (Nat.le_of_not_lt hnear))

/-- With two empty segments behind it, the last segment does not name the schema. -/
theorem name?_passes_over :
    let uri := SchemaUri.parse "a.json#/definitions/Foo//"
    uri.LastSegment "Foo".toList 2 ∧ ¬NamedBySegment "Foo".toList uri.name? ∧
      uri.name? = some "a" := by
  intro uri
  have hname : uri.name? = some "a" := by decide +kernel
  refine ⟨⟨"/definitions/Foo//", [[], "definitions".toList], ?_, ?_, ?_⟩, ?_, hname⟩
  · decide +kernel
  · decide
  · decide +kernel
  · rintro ⟨stem, hstem, heq⟩
    rw [← stripped_iff.1 hstem, hname] at heq
    exact absurd heq (by decide +kernel)

end SchemaUri

end JsonTypes
