import JsonTypes.Proofs.Schema.Resolving

/-!
# Names that addresses give

What an address stands for is told by the documents (`Documents.refs?`), and a resolver answers just
that (`refs?_of_refsForUri`). Each source of a name sees to it that the name is not empty: a title
counts only if it has text, so does the name of a file, and the keys of an object are refused if one
is empty. The last segment of a fragment is not empty either, but it can be nothing but an ending,
and the ending is taken away. So a name is empty just if nothing comes before such a segment
(`empty_mem_names_iff`).
-/

namespace JsonTypes

/-! ## Endings -/

namespace SchemaUri

/-- Whether a name is nothing but an ending that says it is a schema or JSON. -/
def IsEnding (name : List Char) : Prop :=
  name.map Url.asciiLower = ".json".toList ∨ name.map Url.asciiLower = ".schema".toList

instance (name : List Char) : Decidable (IsEnding name) := by
  unfold IsEnding
  infer_instance

/-- What is left of a name without the ending that it may have. -/
def Stripped (name stem : List Char) : Prop :=
  (∃ ending, IsEnding ending ∧ name = stem ++ ending) ∨
    stem = name ∧ ∀ ending, IsEnding ending → ¬ending <:+ name

/-- A name has an ending if the name in lower case has the ending in lower case. -/
theorem isSuffixOf_lower_iff {lower name : List Char} :
    lower.isSuffixOf (name.map Url.asciiLower) = true ↔
      ∃ ending, ending.map Url.asciiLower = lower ∧ ending <:+ name := by
  rw [List.isSuffixOf_iff_suffix, List.suffix_map_iff]
  exact exists_congr fun ending => ⟨fun h => ⟨h.2.symm, h.1⟩, fun h => ⟨h.2, h.1.symm⟩⟩

/-- An ending takes as many characters from a name as it has itself. -/
theorem take_of_ending {lower ending stem : List Char} (h : ending.map Url.asciiLower = lower) :
    (stem ++ ending).take ((stem ++ ending).length - lower.length) = stem := by
  rw [← h, List.length_map, List.length_append, Nat.add_sub_cancel, List.take_left]

theorem removeExtension_append {stem ending : List Char} (h : IsEnding ending) :
    removeExtension (stem ++ ending) = stem := by
  unfold removeExtension
  simp only
  rcases h with hjson | hschema
  · rw [if_pos (isSuffixOf_lower_iff.2 ⟨ending, hjson, List.suffix_append _ _⟩)]
    exact take_of_ending hjson
  · have hboth := isSuffixOf_lower_iff.2 ⟨ending, hschema, List.suffix_append stem ending⟩
    have hjson : ¬".json".toList.isSuffixOf ((stem ++ ending).map Url.asciiLower) = true := by
      intro hjson
      rw [List.isSuffixOf_iff_suffix] at hjson hboth
      exact absurd (List.suffix_of_suffix_length_le hjson hboth (by decide)) (by decide)
    rw [if_neg hjson, if_pos hboth]
    exact take_of_ending hschema

theorem removeExtension_eq_self {name : List Char}
    (h : ∀ ending, IsEnding ending → ¬ending <:+ name) : removeExtension name = name := by
  unfold removeExtension
  simp only
  have hnone {lower : List Char} (hlower : ∀ ending, ending.map Url.asciiLower = lower →
      IsEnding ending) : ¬lower.isSuffixOf (name.map Url.asciiLower) = true := by
    intro hsuffix
    obtain ⟨ending, hending, hsuffix⟩ := isSuffixOf_lower_iff.1 hsuffix
    exact h ending (hlower ending hending) hsuffix
  rw [if_neg (hnone fun _ => .inl), if_neg (hnone fun _ => .inr)]

theorem stripped_iff {name stem : List Char} :
    Stripped name stem ↔ removeExtension name = stem := by
  constructor
  · rintro (⟨ending, hending, rfl⟩ | ⟨rfl, hnone⟩)
    · exact removeExtension_append hending
    · exact removeExtension_eq_self hnone
  · rintro rfl
    by_cases h : ∃ ending, IsEnding ending ∧ ending <:+ name
    · obtain ⟨ending, hending, stem, rfl⟩ := h
      rw [removeExtension_append hending]
      exact .inl ⟨ending, hending, rfl⟩
    · have hnone : ∀ ending, IsEnding ending → ¬ending <:+ name := fun ending hending hsuffix =>
        h ⟨ending, hending, hsuffix⟩
      exact .inr ⟨removeExtension_eq_self hnone, hnone⟩

theorem removeExtension_eq_nil_iff {name : List Char} (hne : name ≠ []) :
    removeExtension name = [] ↔ IsEnding name := by
  rw [← stripped_iff]
  constructor
  · rintro (⟨ending, hending, rfl⟩ | ⟨rfl, -⟩)
    · exact hending
    · exact absurd rfl hne
  · exact fun h => .inl ⟨name, h, rfl⟩

end SchemaUri

theorem Pointer.replacePair_ne_nil (a b c : Char) {cs : List Char} (h : cs ≠ []) :
    replacePair a b c cs ≠ [] := by
  fun_cases replacePair a b c cs
  · exact List.cons_ne_nil _ _
  · exact List.cons_ne_nil _ _
  · exact h

theorem Pointer.unescapeToken_ne_nil {cs : List Char} (h : cs ≠ []) : unescapeToken cs ≠ [] :=
  replacePair_ne_nil _ _ _ (replacePair_ne_nil _ _ _ h)

namespace SchemaUri

/-- The last segment of the fragment is nothing but an ending. -/
def NamesEnding (uri : SchemaUri) : Prop :=
  ∃ fragment segment, uri.fragment = some fragment ∧
    lastFragmentSegment? fragment = some segment ∧ IsEnding (Pointer.unescapeToken segment)

theorem nameOfFragment?_eq_empty_iff {uri : SchemaUri} :
    uri.nameOfFragment? = some "" ↔ uri.NamesEnding := by
  unfold nameOfFragment? NamesEnding
  simp only [Option.map_eq_some_iff, Option.bind_eq_some_iff, ← exists_and_right, and_assoc]
  rw [exists_comm]
  refine exists_congr fun fragment => exists_congr fun segment => and_congr_right fun _ =>
    and_congr_right fun hsegment => ?_
  have hne : segment ≠ [] := by
    simpa using List.find?_some hsegment
  rw [← removeExtension_eq_nil_iff (Pointer.unescapeToken_ne_nil hne)]
  exact String.ofList_eq_empty_iff

instance (uri : SchemaUri) : Decidable uri.NamesEnding :=
  decidable_of_iff _ nameOfFragment?_eq_empty_iff

theorem nameOfFile?_ne_empty (uri : SchemaUri) : uri.nameOfFile? ≠ some "" := by
  unfold nameOfFile?
  split_ifs
  · nofun
  · simp [Option.filter_eq_some_iff]

theorem name?_eq_empty_iff {uri : SchemaUri} : uri.name? = some "" ↔ uri.NamesEnding := by
  rw [← nameOfFragment?_eq_empty_iff, name?]
  rcases uri.nameOfFragment? with _ | name
  · simpa using uri.nameOfFile?_ne_empty
  · rfl

end SchemaUri

/-! ## What an address stands for -/

namespace ResolvedRefs

def names : ResolvedRefs → List String
  | single name _ => [name]
  | multiple refs => refs.map (·.1)

end ResolvedRefs

namespace Resolver

/-- Whether a schema has a title with text in it. -/
def HasTitle (schema : Json) : Prop :=
  ∃ title, (schema.member? "title").bind Json.string? = some title ∧ title ≠ ""

theorem nameOf_eq_empty_iff {uri : SchemaUri} {schema : Json} {default : String}
    (hdefault : default ≠ "") :
    nameOf uri schema default = "" ↔ ¬HasTitle schema ∧ uri.NamesEnding := by
  have hname : uri.name?.getD default = "" ↔ uri.NamesEnding := by
    rw [← SchemaUri.name?_eq_empty_iff]
    rcases uri.name? with _ | name
    · simpa using hdefault
    · simp
  unfold nameOf HasTitle
  rcases (schema.member? "title").bind Json.string? with _ | title
  · simpa using hname
  · by_cases htitle : title = ""
    · simpa [htitle, Option.filter] using hname
    · simp [htitle, Option.filter]

theorem refsOfMembers_names_ne_empty {location : Location} {schema : Json} {refs : ResolvedRefs}
    (h : refsOfMembers location schema = .ok refs) : "" ∉ refs.names := by
  unfold refsOfMembers at h
  split at h
  · split_ifs at h with hkey
    cases h
    rw [Entries.hasKey_iff] at hkey
    simpa [ResolvedRefs.names, Entries.keys] using hkey
  · cases h

/-- The top levels that an address stands for, given what is at its location. -/
def refsAt (uri : SchemaUri) (default : String) (location : Location) (schema : Json) :
    Except SchemaError ResolvedRefs :=
  if (withoutFinalSlash uri).2 && !location.isRoot then refsOfMembers location schema
  else .ok (.single (nameOf (withoutFinalSlash uri).1 schema default) location)

theorem refsForUri_eq (uri : SchemaUri) (default : String) :
    refsForUri uri default = (do
      let location ← resolve (withoutFinalSlash uri).1
      let schema ← schemaAt location
      liftM (refsAt uri default location schema)) := by
  refine bind_congr fun location => bind_congr fun schema => ?_
  change (if (withoutFinalSlash uri).2 && !location.isRoot then _ else _) = _
  unfold refsAt
  by_cases h : (withoutFinalSlash uri).2 && !location.isRoot
  · rw [if_pos h, if_pos h]
  · rw [if_neg h, if_neg h]
    rfl

end Resolver

namespace Documents

open Resolver

/-- The top levels that an address stands for, if its location exists. -/
def refs? (docs : Documents) (uri : SchemaUri) (default : String) : Option ResolvedRefs :=
  (docs.locate? (withoutFinalSlash uri).1).bind fun location =>
    (docs.schemaAt? location).bind fun schema => (refsAt uri default location schema).toOption

/-- An address stands for one schema, which has no title, and the last segment of the fragment is
nothing but an ending. -/
def Unnamed (docs : Documents) (uri : SchemaUri) : Prop :=
  ∃ location schema, docs.locate? (withoutFinalSlash uri).1 = some location ∧
    docs.schemaAt? location = some schema ∧ ((withoutFinalSlash uri).2 → location.isRoot) ∧
    ¬HasTitle schema ∧ (withoutFinalSlash uri).1.NamesEnding

variable {docs docs' : Documents} {uri : SchemaUri} {default : String} {refs : ResolvedRefs}

theorem Extends.refs? (h : docs.Extends docs') (hrefs : docs.refs? uri default = some refs) :
    docs'.refs? uri default = some refs := by
  obtain ⟨location, hlocation, hrefs⟩ := Option.bind_eq_some_iff.1 hrefs
  obtain ⟨schema, hschema, hrefs⟩ := Option.bind_eq_some_iff.1 hrefs
  exact Option.bind_eq_some_iff.2 ⟨location, h.locate? hlocation,
    Option.bind_eq_some_iff.2 ⟨schema, h.schemaAt? hschema, hrefs⟩⟩

/-- Of the names that an address gives, one is empty just if the address gives none. -/
theorem empty_mem_names_iff (hdefault : default ≠ "") (h : docs.refs? uri default = some refs) :
    "" ∈ refs.names ↔ docs.Unnamed uri := by
  obtain ⟨location, hlocation, h⟩ := Option.bind_eq_some_iff.1 h
  obtain ⟨schema, hschema, h⟩ := Option.bind_eq_some_iff.1 h
  simp only [Unnamed, hlocation, hschema, Option.some.injEq, exists_and_left, exists_eq_left']
  unfold refsAt at h
  by_cases hmembers : (withoutFinalSlash uri).2 && !location.isRoot
  · rw [if_pos hmembers] at h
    simp only [Bool.and_eq_true, Bool.not_eq_true'] at hmembers
    simp only [hmembers, Bool.false_eq_true, imp_false, not_true, false_and, iff_false]
    rcases hm : refsOfMembers location schema with e | refs' <;> rw [hm] at h <;> cases h
    exact refsOfMembers_names_ne_empty hm
  · rw [if_neg hmembers] at h
    cases h
    have hsingle : (withoutFinalSlash uri).2 → location.isRoot := by
      simpa using hmembers
    simp only [ResolvedRefs.names, List.mem_singleton, eq_true hsingle, true_and]
    rw [eq_comm, nameOf_eq_empty_iff hdefault]

/-- The keys of an object are never an empty name. -/
theorem not_mem_of_multiple {members : List (String × Location)}
    (h : docs.refs? uri default = some (.multiple members)) :
    "" ∉ (ResolvedRefs.multiple members).names := by
  obtain ⟨location, -, h⟩ := Option.bind_eq_some_iff.1 h
  obtain ⟨schema, -, h⟩ := Option.bind_eq_some_iff.1 h
  unfold refsAt at h
  split_ifs at h
  · rcases hm : refsOfMembers location schema with e | refs' <;> rw [hm] at h <;> cases h
    exact refsOfMembers_names_ne_empty hm
  · cases h

theorem Unnamed.exists_refs? (h : docs.Unnamed uri) (default : String) :
    ∃ refs, docs.refs? uri default = some refs := by
  obtain ⟨location, schema, hlocation, hschema, hsingle, -⟩ := h
  refine ⟨.single (nameOf (withoutFinalSlash uri).1 schema default) location, ?_⟩
  rw [refs?, hlocation, Option.bind_some, hschema, Option.bind_some, refsAt, if_neg]
  · rfl
  · simpa using hsingle

end Documents

namespace Resolver

theorem refsForUri_grows (uri : SchemaUri) (default : String) :
    Action.Keeps Grows (refsForUri uri default) := by
  rw [refsForUri_eq]
  exact (resolve_grows _).bind Grows.trans fun location =>
    (schemaAt_grows location).bind Grows.trans fun schema => keeps_ofExcept _

/-- What a resolver answers is what its documents say then. -/
theorem refs?_of_refsForUri {uri : SchemaUri} {default : String} {refs : ResolvedRefs}
    {r r' : Resolver} (h : refsForUri uri default r = (.ok refs, r')) :
    r'.known.refs? uri default = some refs := by
  rw [refsForUri_eq] at h
  obtain ⟨location, r₁, hlocation, h⟩ := Action.of_bind_ok h
  obtain ⟨schema, r₂, hschema, h⟩ := Action.of_bind_ok h
  rw [ofExcept_apply, Prod.mk.injEq] at h
  obtain ⟨hrefs, rfl⟩ := h
  have hgrow := schemaAt_grows location r₁
  rw [hschema] at hgrow
  exact Option.bind_eq_some_iff.2 ⟨location, Documents.Extends.locate? hgrow
    (locate?_of_resolve hlocation), Option.bind_eq_some_iff.2
      ⟨schema, schemaAt?_of_schemaAt hschema, by rw [hrefs]; rfl⟩⟩

end Resolver

end JsonTypes
