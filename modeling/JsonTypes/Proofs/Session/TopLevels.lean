import JsonTypes.Proofs.Schema.Names
import JsonTypes.Proofs.Session.Collection

/-!
# Names of top levels

The names of the top levels are those that the addresses stand for by the documents that were there
in the end (`mem_keys_of_resolveAll`), except that the only address of all is named by its source. A
source has a name. So no top level is without a name, unless there are several addresses and one of
them gives an empty one (`empty_topLevel_iff`); this does happen (`empty_topLevel_of_ending`).
-/

namespace JsonTypes.SchemaSources

open Resolver

/-- The names under which a source has the top levels of one of its addresses. -/
def namesUnder (alone : Bool) (source : SchemaSource) : ResolvedRefs → List String
  | .single name _ => [singleName alone source name]
  | .multiple refs => refs.map (·.1)

theorem namesUnder_false (source : SchemaSource) (refs : ResolvedRefs) :
    namesUnder false source refs = refs.names := by
  cases refs <;> rfl

variable {alone : Bool} {source : SchemaSource} {docs : Documents} {uri : SchemaUri}

theorem mem_keys_putRefs {topLevels : Entries String Location} {refs : ResolvedRefs}
    {name : String} :
    name ∈ (putRefs alone source topLevels refs).keys ↔
      name ∈ topLevels.keys ∨ name ∈ namesUnder alone source refs := by
  rw [or_comm]
  rcases refs with ⟨n, l⟩ | refs
  · rw [putRefs, Entries.mem_keys_put, namesUnder, List.mem_singleton]
  · rw [putRefs, Entries.mem_keys_foldl_put, namesUnder, List.mem_map]

theorem resolveAll_grows : ∀ (entries : List (SchemaUri × SchemaSource))
    (topLevels : Entries String Location), Action.Keeps Grows (resolveAll alone entries topLevels)
  | [], _ => Grows.refl
  | (uri, source) :: rest, topLevels =>
    (refsForUri_grows uri source.name).bind Grows.trans fun refs =>
      resolveAll_grows rest (putRefs alone source topLevels refs)

/-- The names of the top levels are those of all addresses, by the documents of the end. -/
theorem mem_keys_of_resolveAll {name : String} : ∀ {entries : List (SchemaUri × SchemaSource)}
    {topLevels topLevels' : Entries String Location} {r r' : Resolver},
    resolveAll alone entries topLevels r = (.ok topLevels', r') →
      (name ∈ topLevels'.keys ↔ name ∈ topLevels.keys ∨ ∃ e ∈ entries, ∃ refs,
        r'.known.refs? e.1 e.2.name = some refs ∧ name ∈ namesUnder alone e.2 refs)
  | [], topLevels, _, r, _, h => by
    cases h
    simp
  | (uri, source) :: rest, topLevels, topLevels', r, r', h => by
    obtain ⟨refs, r₁, hrefs, h⟩ := Action.of_bind_ok h
    have hgrow := @resolveAll_grows alone rest (putRefs alone source topLevels refs) r₁
    rw [h] at hgrow
    -- The addresses behind this one only bring more documents.
    have hthen : r'.known.refs? uri source.name = some refs :=
      Documents.Extends.refs? hgrow (refs?_of_refsForUri hrefs)
    rw [mem_keys_of_resolveAll h, mem_keys_putRefs, or_assoc]
    simp [hthen]

/-- Only one of several addresses can leave a top level without a name. -/
theorem empty_mem_namesUnder_iff (hsource : source.name ≠ "") :
    (∃ refs, docs.refs? uri source.name = some refs ∧ "" ∈ namesUnder alone source refs) ↔
      alone = false ∧ docs.Unnamed uri := by
  rcases alone
  · simp only [namesUnder_false, true_and]
    constructor
    · rintro ⟨refs, hrefs, hempty⟩
      exact (Documents.empty_mem_names_iff hsource hrefs).1 hempty
    · intro h
      obtain ⟨refs, hrefs⟩ := h.exists_refs? source.name
      exact ⟨refs, hrefs, (Documents.empty_mem_names_iff hsource hrefs).2 h⟩
  · simp only [Bool.true_eq_false, false_and, iff_false]
    rintro ⟨⟨n, l⟩ | refs, hrefs, hempty⟩
    · exact hsource (List.mem_singleton.1 hempty).symm
    · exact Documents.not_mem_of_multiple hrefs hempty

/-- Addresses are resolved by a finish that succeeds, unless there are none. -/
theorem of_finish {s s' : SchemaSources} (h : s.finish = (.ok (), s')) :
    (s.sources = [] ∧ s' = s) ∨ ∃ topLevels r,
      resolveAll (s.sources.length = 1) s.sources [] (.new s.store s.log) = (.ok topLevels, r) ∧
        s' = { s with topLevels := topLevels, resolver := some r, log := r.log } := by
  unfold finish at h
  split_ifs at h with hnone hstore
  · cases h
    exact .inl ⟨List.isEmpty_iff.1 hnone, rfl⟩
  · cases h
  · rcases hall : resolveAll (s.sources.length = 1) s.sources [] (.new s.store s.log) with
      ⟨e | topLevels, r⟩ <;> rw [hall] at h <;> cases h
    exact .inr ⟨topLevels, r, rfl, rfl⟩

theorem Holds.name_ne_empty {sources : List SchemaSource} {s : SchemaSources}
    (h : Holds (sources.filter (·.isComplete)) s) {e : SchemaUri × SchemaSource}
    (he : e ∈ s.sources) : e.2.name ≠ "" := by
  rw [h.sources] at he
  obtain ⟨⟨source, n⟩, hsource, he⟩ := List.mem_flatMap.1 he
  obtain ⟨uri, -, rfl⟩ := List.mem_map.1 he
  have hmem := List.mem_of_getElem? (List.mk_mem_zipIdx_iff_le_and_getElem?_sub.1 hsource).2
  have hcomplete := (List.mem_filter.1 hmem).2
  rintro hempty
  simp [SchemaSource.isComplete, show source.name = "" from hempty] at hcomplete

/-- Of the names that an address stands for, one is empty just if the address gives none. So once
all sources are there, a top level is without a name just if there are several addresses and one of
them gives none. -/
theorem empty_topLevel_iff (backing : Option SchemaStore) (producers : List AttributeProducer)
    (sources : List SchemaSource) :
    (∀ (uri : SchemaUri) (default : String) (r r' : Resolver) (refs : ResolvedRefs),
      default ≠ "" → refsForUri uri default r = (.ok refs, r') →
        ("" ∈ refs.names ↔ r'.known.Unnamed uri)) ∧
    ∀ s : SchemaSources, finish (addEach sources (.new backing producers)) = (.ok (), s) →
      ("" ∈ s.topLevels.keys ↔ s.sources.length ≠ 1 ∧
        ∃ r e, s.resolver = some r ∧ e ∈ s.sources ∧ r.known.Unnamed e.1) := by
  refine ⟨fun uri default r r' refs hdefault h => ?_, fun s h => ?_⟩
  · exact Documents.empty_mem_names_iff hdefault (refs?_of_refsForUri h)
  have hholds := holds_addEach backing producers sources
  rcases of_finish h with ⟨hnone, rfl⟩ | ⟨topLevels, r, hall, rfl⟩
  · simp [hnone, hholds.topLevels, Entries.keys]
  · set added := addEach sources (.new backing producers)
    have hempty : "" ∈ topLevels.keys ↔ ∃ e ∈ added.sources,
        decide (added.sources.length = 1) = false ∧ r.known.Unnamed e.1 := by
      rw [mem_keys_of_resolveAll hall]
      refine (or_iff_right List.not_mem_nil).trans ?_
      refine exists_congr fun e => and_congr_right fun he => ?_
      exact empty_mem_namesUnder_iff (hholds.name_ne_empty he)
    rw [hempty]
    simp only [decide_eq_false_iff_not, Option.some.injEq, exists_and_left, exists_eq_left', ne_eq]
    constructor
    · rintro ⟨e, he, hmore, hunnamed⟩
      exact ⟨hmore, e, he, hunnamed⟩
    · rintro ⟨hmore, e, he, hunnamed⟩
      exact ⟨e, he, hmore, hunnamed⟩

/-- A store with one document at every address. -/
def everywhere (document : Json) : Option SchemaStore := some fun _ _ => .ok (some document)

/-- A file, and a schema in it whose key ends like the name of a file. -/
def filed : List SchemaSource :=
  [⟨"All", some ["shapes.json"], none, none⟩,
    ⟨"Box", some ["shapes.json#/$defs/box.json"], none, none⟩]

def shapes : Json := .object [("$defs", .object [("box.json", .object [("title", .string "")])])]

/-- Something is left of the name of the file and of that of the schema. -/
theorem empty_topLevel_iff_filed :
    (∃ refs r', refsForUri ⟨⟨"shapes.json"⟩, some "/$defs/box.json"⟩ "Box"
      (.new ⟨[], everywhere shapes⟩ []) = (.ok refs, r') ∧ "" ∉ refs.names) ∧
    ∃ s, finish (addEach filed (.new (everywhere shapes) [])) = (.ok (), s) ∧
      "" ∉ s.topLevels.keys := by
  have hrefs : (refsForUri ⟨⟨"shapes.json"⟩, some "/$defs/box.json"⟩ "Box"
      (.new ⟨[], everywhere shapes⟩ [])).1 =
        .ok (.single "box" ⟨⟨"shapes.json"⟩, ["$defs", "box.json"]⟩) := by
    decide +kernel
  have hfinish : (finish (addEach filed (.new (everywhere shapes) []))).1 = .ok () := by
    decide +kernel
  refine ⟨⟨_, _, Prod.ext hrefs rfl, ?_⟩, _, Prod.ext hfinish rfl, ?_⟩
  · rw [(empty_topLevel_iff (everywhere shapes) [] filed).1 _ _ _ _ _ (by decide) (Prod.ext hrefs rfl)]
    rintro ⟨l, schema, -, -, -, -, hending⟩
    revert hending
    decide +kernel
  · rw [(empty_topLevel_iff (everywhere shapes) [] filed).2 _ (Prod.ext hfinish rfl)]
    rintro ⟨-, r, e, -, he, l, schema, -, -, -, -, hending⟩
    revert e
    decide +kernel

/-- One of two sources names a member whose key is nothing but an ending, and so a top level is
without a name. -/
theorem empty_topLevel_of_ending :
    let sources : List SchemaSource :=
      [⟨"First", some ["a#/.json"], none, none⟩, ⟨"Second", some ["b"], none, none⟩]
    let s := finish (addEach sources
      (.new (everywhere (.object [(".json", .object [("type", .string "string")])])) []))
    (∀ source ∈ sources, source.isComplete) ∧ s.1 = .ok () ∧
      s.2.topLevels.keys = ["", "b"] := by
  decide +kernel

end JsonTypes.SchemaSources
