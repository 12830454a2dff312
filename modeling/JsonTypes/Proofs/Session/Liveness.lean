import JsonTypes.Proofs.Schema.Aliases
import JsonTypes.Proofs.Session.Order

/-!
# What is resolved is there

A resolver answers with locations only after it has looked there, in the document of the address:
at the location itself, or one step above it at an object that has the key. Documents are kept, so
the schemas at all these locations can be had later without a request (`Resolver.Live`), and so can
those of all top levels once the sources are resolved. A resolution that fails at any source leaves
no trace in the sources (`resolved_live`).
-/

namespace JsonTypes

/-- The locations of the top levels that an address stands for. -/
def ResolvedRefs.locations : ResolvedRefs → List Location
  | single _ location => [location]
  | multiple refs => refs.map (·.2)

namespace Resolver

variable {r r' : Resolver} {uri : SchemaUri} {l : Location}

/-- The schema at the location can be had without a request. -/
def Live (r : Resolver) (l : Location) : Prop := ∃ schema, schemaAt l r = (.ok schema, r)

theorem live_iff : r.Live l ↔ ∃ schema, r.known.schemaAt? l = some schema := by
  refine exists_congr fun schema => ⟨schemaAt?_of_schemaAt, fun h => ?_⟩
  obtain ⟨d, hd, hs⟩ := Option.bind_eq_some_iff.1 h
  refine (Action.bind_ok (document_of_known hd)).trans ?_
  rw [ofExcept_apply]
  rcases hlookup : lookup d l with e | schema' <;> rw [hlookup] at hs <;> cases hs
  rfl

theorem resolve_live (h : resolve uri r = (.ok l, r')) : l.document = uri.document ∧ r'.Live l := by
  obtain ⟨d, r₁, hd, h⟩ := Action.of_bind_ok h
  obtain ⟨l', r₂, hl, h⟩ := Action.of_bind_ok h
  rw [ofExcept_apply, Prod.mk.injEq] at hl
  obtain ⟨hl, rfl⟩ := hl
  obtain ⟨schema, r₃, hs, h⟩ := Action.of_bind_ok h
  rw [ofExcept_apply, Prod.mk.injEq] at hs
  obtain ⟨hs, rfl⟩ := hs
  cases h
  have hdocument := document_of_locate hl
  refine ⟨hdocument, live_iff.2 ⟨schema, Option.bind_eq_some_iff.2 ⟨d, ?_, by rw [hs]; rfl⟩⟩⟩
  exact hdocument ▸ known_of_document hd

end Resolver

namespace Documents

open Resolver

variable {docs : Documents} {uri : SchemaUri} {default : String} {refs : ResolvedRefs}

theorem document_of_locate? {l : Location} (h : docs.locate? uri = some l) :
    l.document = uri.document := by
  obtain ⟨d, -, hl⟩ := Option.bind_eq_some_iff.1 h
  rcases he : locate uri d with e | l' <;> rw [he] at hl <;> cases hl
  exact document_of_locate he

theorem document_withoutFinalSlash (uri : SchemaUri) :
    (withoutFinalSlash uri).1.document = uri.document := by
  unfold withoutFinalSlash
  split
  · rfl
  · split_ifs <;> rfl

/-- Each key of an object leads one step further in. -/
theorem refsOfMembers_live {l l' : Location} {schema : Json} (hl : docs.schemaAt? l = some schema)
    (h : refsOfMembers l schema = .ok refs) (hl' : l' ∈ refs.locations) :
    l'.document = l.document ∧ ∃ v, docs.schemaAt? l' = some v := by
  unfold refsOfMembers at h
  split at h
  · split_ifs at h
    cases h
    simp only [ResolvedRefs.locations, List.map_map, List.mem_map] at hl'
    obtain ⟨e, he, rfl⟩ := hl'
    obtain ⟨v, hv⟩ := Entries.mem_keys_iff.1 (List.mem_map_of_mem he)
    exact ⟨rfl, v, (schemaAt?_push hl e.1).trans hv⟩
  · cases h

/-- The locations that an address stands for are in its document, and there is something there. -/
theorem refs?_live (h : docs.refs? uri default = some refs) {l : Location}
    (hl : l ∈ refs.locations) : l.document = uri.document ∧ ∃ v, docs.schemaAt? l = some v := by
  obtain ⟨location, hlocation, h⟩ := Option.bind_eq_some_iff.1 h
  obtain ⟨schema, hschema, h⟩ := Option.bind_eq_some_iff.1 h
  have hdocument := (document_of_locate? hlocation).trans (document_withoutFinalSlash uri)
  rcases hrefs : refsAt uri default location schema with e | refs' <;> rw [hrefs] at h <;> cases h
  unfold refsAt at hrefs
  split_ifs at hrefs
  · obtain ⟨hsame, hlive⟩ := refsOfMembers_live hschema hrefs hl
    exact ⟨hsame.trans hdocument, hlive⟩
  · cases hrefs
    cases List.mem_singleton.1 hl
    exact ⟨hdocument, schema, hschema⟩

end Documents

namespace SchemaSources

open Resolver

variable {s s' : SchemaSources}

/-- Every top level comes of some address, and what the address stands for is there. -/
theorem resolveAll_live {alone : Bool} {sources : List (SchemaUri × SchemaSource)}
    {topLevels : Entries String Location} {r r' : Resolver}
    (h : resolveAll alone sources [] r = (.ok topLevels, r')) {e : String × Location}
    (he : e ∈ topLevels) : r'.Live e.2 := by
  obtain ⟨names, hnames, rfl⟩ := Processor.resolveAll_listed h
  obtain ⟨p, hp, rfl⟩ := (Entries.mem_foldl_put he).resolve_right List.not_mem_nil
  obtain ⟨entries, hentries, hp⟩ := List.mem_flatten.1 hp
  obtain ⟨source, -, refs, hrefs, rfl⟩ := hnames.exists_of_mem_right hentries
  refine live_iff.2 (Documents.refs?_live hrefs ?_).2
  cases refs with
  | single name l => exact List.mem_singleton.2 (congrArg Prod.snd (List.mem_singleton.1 hp))
  | multiple refs => exact List.mem_map_of_mem hp

theorem finish_live (hs : s.Reachable) (h : s.finish = (.ok (), s')) {e : String × Location}
    (he : e ∈ s'.topLevels) : ∃ r, s'.resolver = some r ∧ r.Live e.2 := by
  rcases of_finish h with ⟨hnone, rfl⟩ | ⟨topLevels, r, hall, rfl⟩
  · rw [hs.topLevels_eq_nil (hs.resolver_eq_none hnone)] at he
    cases he
  · exact ⟨r, rfl, resolveAll_live hall he⟩

theorem finish_of_ne (h : s.finish.1 ≠ .ok ()) : s.finish.2 = { s with log := s.finish.2.log } := by
  unfold finish at h ⊢
  split_ifs
  · rfl
  · rfl
  · rename_i hsources hstore
    rw [if_neg hsources, if_neg hstore] at h
    rcases hall : resolveAll (s.sources.length = 1) s.sources [] (.new s.store s.log) with
      ⟨e | topLevels, r⟩
    · rfl
    · rw [hall] at h
      exact absurd rfl h

end SchemaSources

open Resolver

/-- Whatever the store and the resolver, every location that an address resolves to, alone or as one
of several top levels, is in the document of the address, and the schema there can be had from then
on without a request. So it is with the top levels of sources that are resolved. If that fails, the
sources are what they were, but for the requests. -/
theorem resolved_live :
    (∀ uri r r' l, resolve uri r = (.ok l, r') → l.document = uri.document ∧ r'.Live l) ∧
    (∀ uri default r r' refs, refsForUri uri default r = (.ok refs, r') →
      ∀ l ∈ refs.locations, l.document = uri.document ∧ r'.Live l) ∧
    (∀ s : SchemaSources, s.Reachable → s.finish.1 = .ok () →
      ∀ e ∈ s.finish.2.topLevels, ∃ r, s.finish.2.resolver = some r ∧ r.Live e.2) ∧
    ∀ s : SchemaSources, s.finish.1 ≠ .ok () → s.finish.2 = { s with log := s.finish.2.log } := by
  refine ⟨fun uri r r' l h => resolve_live h, fun uri default r r' refs h l hl => ?_,
    fun s hs hok e he => SchemaSources.finish_live hs (Prod.ext hok rfl) he,
    fun s h => SchemaSources.finish_of_ne h⟩
  obtain ⟨hdocument, hlive⟩ := Documents.refs?_live (refs?_of_refsForUri h) hl
  exact ⟨hdocument, live_iff.2 hlive⟩

/-- A store with one document, which has anchors and a place for shared schemas. -/
def annotated : SchemaStore := fun _ id =>
  if id.text = "x.json" then
    .ok (some (.object
      [("$defs", .object [("a", .object [("$anchor", .string "here")]), ("b", .object [])]),
        ("allOf", .array [.bool true, .object [("$id", .string "#there")]])]))
  else .ok none

/-- Its shared schemas, and then a source for an anchor that it does not have. -/
def shared : SchemaSources :=
  ((SchemaSources.new (some annotated) []).add ⟨"All", some ["x.json#/$defs/"], none, none⟩).2

def strayed : SchemaSources := (shared.finish.2.add ⟨"Lost", some ["x.json#nowhere"], none, none⟩).2

/-- An anchor in an array, the members of an object, and a source that fails behind one that does
not. -/
theorem resolved_live_annotated :
    (∃ l r', resolve ⟨⟨"x.json"⟩, some "there"⟩ (.new ⟨[], some annotated⟩ []) = (.ok l, r') ∧
      l.path = ["allOf", "1"] ∧ l.document = ⟨"x.json"⟩ ∧ r'.Live l) ∧
    (∃ refs r', refsForUri ⟨⟨"x.json"⟩, some "/$defs/"⟩ "" (.new ⟨[], some annotated⟩ []) =
      (.ok refs, r') ∧ refs.locations.map (·.path) = [["$defs", "a"], ["$defs", "b"]] ∧
        ∀ l ∈ refs.locations, l.document = ⟨"x.json"⟩ ∧ r'.Live l) ∧
    (shared.finish.2.topLevels.keys = ["a", "b"] ∧
      ∀ e ∈ shared.finish.2.topLevels, ∃ r, shared.finish.2.resolver = some r ∧ r.Live e.2) ∧
    strayed.finish.2 = { strayed with log := strayed.finish.2.log } ∧
      strayed.finish.2.topLevels.keys = ["a", "b"] := by
  obtain ⟨hresolve, hrefs, hfinish, hfail⟩ := resolved_live
  have hl : (resolve ⟨⟨"x.json"⟩, some "there"⟩ (.new ⟨[], some annotated⟩ [])).1 =
      .ok ⟨⟨"x.json"⟩, ["allOf", "1"]⟩ := by decide +kernel
  have hmembers : (refsForUri ⟨⟨"x.json"⟩, some "/$defs/"⟩ "" (.new ⟨[], some annotated⟩ [])).1 =
      .ok (.multiple [("a", ⟨⟨"x.json"⟩, ["$defs", "a"]⟩), ("b", ⟨⟨"x.json"⟩, ["$defs", "b"]⟩)]) := by
    decide +kernel
  have hok : shared.finish.1 = .ok () := by decide +kernel
  have hstray : strayed.finish.1 ≠ .ok () := by decide +kernel
  have hreachable : shared.Reachable := .add _ (.new (some annotated) [])
  refine ⟨⟨_, _, Prod.ext hl rfl, rfl, ?_⟩, ⟨_, _, Prod.ext hmembers rfl, rfl, ?_⟩,
    ⟨by decide +kernel, hfinish shared hreachable hok⟩, hfail strayed hstray, ?_⟩
  · exact hresolve _ _ _ _ (Prod.ext hl rfl)
  · exact hrefs _ _ _ _ _ (Prod.ext hmembers rfl)
  · rw [hfail strayed hstray]
    decide +kernel

end JsonTypes
