import JsonTypes.Proofs.Schema.Sharing

/-!
# What parts contribute to an object

The object node of a schema with `allOf` mixes what the schema says and what the schemas say that
its parts lead to (`Documents.Contributes`): it has the properties that one of them names, and a
property is required if one of them requires it (`Documents.Materializes.properties_iff`,
`Documents.Materializes.required_iff`). It does not look into the parts of a part.

A part that is an object on its own may owe properties to parts of its own. Those are the ones that
are lost on the way up, and there are no others (`allOf_loses_iff`).
-/

namespace JsonTypes

namespace Materialize

/-- The names that `required` lists. -/
def requiredNames (schema : List (String × Json)) : List String :=
  (((Entries.get? schema "required").bind Json.array?).getD []).filterMap Json.string?

end Materialize

namespace Documents

open Materialize

/-- A run that succeeds, over documents that agree with these, gives a type with the node to a
reference that leads to the location. -/
inductive Materializes (docs : Documents) (l : Location) (n : Node) : Prop
  | run {steps : Nat} {producers : List AttributeProducer} {topLevels : List (String × Location)}
      {r r' : Resolver} {g g' : Graph} {reference : Location} {t : TypeRef} :
      g.Reachable → (topLevels.map (·.1)).Nodup →
      Materialize.run steps producers topLevels r g = (.ok (), r', g') → r'.known.Extends docs →
      (reference, t) ∈ allReferences producers steps topLevels ⟨r, g, []⟩ →
      docs.Leads reference l → g'.node? t = some n → Materializes docs l n

/-- An object schema that a part of the `allOf` at a location leads to. -/
def IsPart (docs : Documents) (l : Location) (s : Materialize.Source) : Prop :=
  ∃ schema, docs.schemaAt? l = some (.object schema) ∧
    ∃ p ∈ partLocations schema l, docs.Leads p s.1 ∧ docs.schemaAt? s.1 = some (.object s.2)

/-- An object schema that is mixed into the object at a location. -/
inductive Contributes (docs : Documents) (l : Location) : Materialize.Source → Prop
  | self {schema} : docs.schemaAt? l = some (.object schema) → Contributes docs l (l, schema)
  | part {s} : docs.IsPart l s → Contributes docs l s

/-- A part of the second location lists the name, and nothing that is mixed at the first does. -/
def OnlyDeeper (docs : Documents) (names : List (String × Json) → List String) (l m : Location)
    (k : String) : Prop :=
  (∃ s, docs.IsPart m s ∧ k ∈ names s.2) ∧ ∀ s, docs.Contributes l s → k ∉ names s.2

end Documents

namespace Materialize

open Plan

variable {A : Answers} {docs : Documents} {l : Location} {schema : List (String × Json)}
  {sources : List Source} {properties : SortedMap String Property}

/-! ## The rules of an object -/

theorem mem_foldl_required {k : String} : ∀ {sources : List Source} {rules : ObjectRules},
    k ∈ (sources.foldl ObjectRules.addSource rules).required ↔
      k ∈ rules.required ∨ ∃ s ∈ sources, k ∈ requiredNames s.2
  | [], rules => by simp
  | s :: rest, rules => by
    rw [List.foldl_cons, mem_foldl_required, ObjectRules.addSource_required, List.mem_append,
      or_assoc]
    simp [requiredNames]

theorem mem_required_ofSources {k : String} :
    k ∈ (ObjectRules.ofSources sources).required ↔ ∃ s ∈ sources, k ∈ requiredNames s.2 := by
  rw [ObjectRules.ofSources, mem_foldl_required]
  exact or_iff_right List.not_mem_nil

theorem mem_properties_ofSources {k : String} :
    k ∈ Entries.keys (ObjectRules.ofSources sources).properties ↔
      ∃ s ∈ sources, k ∈ propertyNames s.2 := by
  have hrules := ObjectRules.ofSources_from sources
  constructor
  · intro hk
    obtain ⟨⟨_, l⟩, hmem, rfl⟩ := List.mem_map.1 hk
    obtain ⟨s, hs, hname, -⟩ := hrules.properties _ l hmem
    exact ⟨s, hs, hname⟩
  · rintro ⟨s, hs, hk⟩
    exact hrules.named s hs k hk

/-! ## Object nodes -/

theorem objectPlan_object (hn : Yields A (objectPlan sources) (.object properties)) :
    (∀ k, (∃ p, properties.get? k = some p) ↔ ∃ s ∈ sources, k ∈ propertyNames s.2) ∧
      ∀ k p, properties.get? k = some p →
        (p.optional = false ↔ ∃ s ∈ sources, k ∈ requiredNames s.2) := by
  have hnodup := (ObjectRules.ofSources_from sources).nodup
  unfold objectPlan at hn
  simp only at hn
  split_ifs at hn
  · rcases ha : (ObjectRules.ofSources sources).additional with _ | l <;>
      simp [ha, yields_bind, yields_pure] at hn
  · simp only [yields_bind, yields_pure, yields_askEach yields_propertyPlan, Node.object.injEq] at hn
    obtain ⟨types, htypes, rfl⟩ := hn
    have hkeys := keys_of_forall₂ htypes
    have hget : ∀ k, (SortedMap.ofList types).get? k = Entries.get? types k :=
      SortedMap.get?_ofList (show (Entries.keys types).Nodup from hkeys ▸ hnodup)
    refine ⟨fun k => ?_, fun k p hp => ?_⟩
    · rw [hget, ← Entries.mem_keys_iff, hkeys, mem_properties_ofSources]
    · obtain ⟨⟨name, l⟩, -, hk, -, ho⟩ :=
        htypes.exists_of_mem_right (Entries.mem_of_get? (hget k ▸ hp))
      simp only at hk ho
      subst hk
      rw [ho, Bool.not_eq_false', List.contains_iff_mem, mem_required_ofSources]

theorem combine_object {options : List TypeRef} {nodes : List Node}
    (hn : Yields A (combine options nodes) (.object properties)) : .object properties ∈ nodes := by
  have hunion : ¬∃ members, List.Forall₂ A.shared nodes members ∧
      Node.union (.ofList (options ++ members)) = .object properties := by
    rintro ⟨_, -, h⟩
    cases h
  rcases options with _ | ⟨o, os⟩
  · rcases nodes with _ | ⟨n, _ | ⟨n', ns⟩⟩
    · cases yields_pure.1 hn
    · cases yields_pure.1 hn
      exact List.mem_singleton.2 rfl
    · simp only [combine, yields_bind, yields_askAllShared, yields_pure] at hn
      exact absurd hn hunion
  · simp only [combine, yields_bind, yields_askAllShared, yields_pure] at hn
    exact absurd hn hunion

theorem literalNodes_no_object {values : List Json} :
    .object properties ∉ literalNodes values := by
  intro h
  rcases mem_foldl_pushUnique.1 h with h | h
  · obtain ⟨v, -, hv⟩ := List.mem_filterMap.1 h
    rcases v with _ | _ | ⟨_ | _⟩ | _ | _ | _ <;> cases hv
  · split_ifs at h
    · cases h
    · cases List.mem_singleton.1 h

/-- Only the type of objects has an object node. -/
theorem planForType_object {type : String}
    (hn : Yields A (planForType type schema sources l) (.object properties)) :
    Yields A (objectPlan sources) (.object properties) := by
  unfold planForType at hn
  split at hn
  case h_6 =>
    unfold arrayPlan at hn
    simp only at hn
    split at hn <;> simp [yields_bind, yields_pure] at hn
  case h_7 => exact hn
  case h_8 => cases hn
  all_goals cases yields_pure.1 hn

theorem ownPlan_object {nodes : List Node} (hn : Yields A (ownPlan schema sources l) nodes)
    (hmem : .object properties ∈ nodes) : Yields A (objectPlan sources) (.object properties) := by
  unfold ownPlan at hn
  rcases hl : literalValues? schema with _ | values <;> simp only [hl] at hn
  · simp only [yields_bind, yields_ofExcept, yields_pure, yields_askEach fun _ _ => Iff.rfl] at hn
    obtain ⟨types, -, found, hfound, rfl⟩ := hn
    have hmem := (mem_foldl_pushUnique.1 hmem).resolve_right List.not_mem_nil
    obtain ⟨type, -, hy⟩ := hfound.exists_of_mem_right hmem
    exact planForType_object hy
  · cases yields_pure.1 hn
    have hmem := (mem_foldl_pushUnique.1 hmem).resolve_right List.not_mem_nil
    exact absurd hmem literalNodes_no_object

/-- What a plan mixes into an object, if it is told where its parts lead. -/
theorem mem_sources_iff (hA : ∀ p q, A.schema p q → docs.Leads p q.1 ∧ docs.schemaAt? q.1 = some q.2)
    (hs : docs.schemaAt? l = some (.object schema)) {found : List (Location × Json)}
    (hfound : List.Forall₂ A.schema (partLocations schema l) found) {s : Source} :
    s ∈ (l, schema) :: found.filterMap source? ↔ docs.Contributes l s := by
  rw [List.mem_cons]
  constructor
  · rintro (rfl | h)
    · exact .self hs
    · obtain ⟨⟨l', v⟩, hmem, hsource⟩ := List.mem_filterMap.1 h
      cases v <;> cases hsource
      obtain ⟨p, hp, hpart⟩ := hfound.exists_of_mem_right hmem
      exact .part ⟨schema, hs, p, hp, hA p _ hpart⟩
  · rintro (hs' | ⟨schema', hs', p, hp, hleads, hpart⟩)
    · rw [hs] at hs'
      cases hs'
      exact .inl rfl
    · rw [hs] at hs'
      cases hs'
      obtain ⟨q, hq, hpq⟩ := hfound.exists_of_mem_left hp
      obtain ⟨hleads', hq'⟩ := hA p q hpq
      obtain ⟨l', v⟩ := q
      cases hleads'.unique hleads
      rw [hpart] at hq'
      cases hq'
      exact .inr (List.mem_filterMap.2 ⟨_, hq, rfl⟩)

end Materialize

/-! ## Runs -/

namespace Documents.Materializes

open Materialize

variable {docs : Documents} {l : Location} {n : Node} {properties : SortedMap String Property}

/-- A location gets the node that the plan of its schema yields. -/
theorem yields (h : docs.Materializes l n) : ∃ schema A, docs.schemaAt? l = some schema ∧
    (planFor schema l).Yields A n ∧
    ∀ p q, A.schema p q → docs.Leads p q.1 ∧ docs.schemaAt? q.1 = some q.2 := by
  obtain ⟨hg, hnames, hrun, hdocs, hmem, hleads, hn⟩ := h
  rename_i steps producers topLevels r r' g g' reference t
  have hstart : Sound (fun _ => False) ⟨r, g, []⟩ := ⟨hg.exact, nofun, nofun, nofun, nofun⟩
  unfold Materialize.run runInto at hrun
  rcases hc : convertTopLevels producers steps topLevels ⟨r, g, []⟩ with ⟨outcome, s⟩
  rw [hc] at hrun
  cases hrun
  have hs := (convertTopLevels_sound topLevels hstart hnames hc).2.1
  have hnoted := (convertTopLevels_noted topLevels hstart hnames
    (fun e he => .start (List.mem_map_of_mem he)) hc (Documents.Extends.refl _)).1
  obtain ⟨l', hl', ht⟩ := hnoted.typed _ hmem
  cases (hl'.mono hdocs).unique hleads
  obtain ⟨schema, n', hschema, hy, hn'⟩ := (hs.done _ t ht).resolve_left id
  cases hn.symm.trans hn'
  exact ⟨schema, s.answers, hdocs.schemaAt? hschema, hy, fun p q hpq =>
    ⟨hpq.1.mono hdocs, hdocs.schemaAt? hpq.2⟩⟩

theorem exists_sources (h : docs.Materializes l (.object properties)) :
    ∃ schema sources A, docs.schemaAt? l = some (.object schema) ∧
      (objectPlan sources).Yields A (.object properties) ∧
      ∀ s, s ∈ sources ↔ docs.Contributes l s := by
  obtain ⟨schema, A, hschema, hy, hA⟩ := h.yields
  cases schema with
  | bool b => cases b <;> cases Plan.yields_pure.1 hy
  | object members =>
    simp only [planFor, objectSchemaPlan, Plan.yields_bind, Plan.yields_askTypes,
      Plan.yields_askEach fun _ _ => Plan.yields_askSchema] at hy
    obtain ⟨found, hfound, options, -, nodes, hnodes, hn⟩ := hy
    exact ⟨members, _, A, hschema, ownPlan_object hnodes (combine_object hn),
      fun s => mem_sources_iff hA hschema hfound⟩
  | _ => cases hy

/-- An object has the properties that something mixed into it names. -/
theorem properties_iff (h : docs.Materializes l (.object properties)) (k : String) :
    (∃ p, properties.get? k = some p) ↔ ∃ s, docs.Contributes l s ∧ k ∈ propertyNames s.2 := by
  obtain ⟨_, sources, A, -, hy, hsources⟩ := h.exists_sources
  rw [(objectPlan_object hy).1 k]
  exact exists_congr fun s => and_congr_left' (hsources s)

/-- A property is required if something mixed into the object requires it. -/
theorem required_iff (h : docs.Materializes l (.object properties)) {k : String} {p : Property}
    (hp : properties.get? k = some p) :
    p.optional = false ↔ ∃ s, docs.Contributes l s ∧ k ∈ requiredNames s.2 := by
  obtain ⟨_, sources, A, -, hy, hsources⟩ := h.exists_sources
  rw [(objectPlan_object hy).2 k p hp]
  exact exists_congr fun s => and_congr_left' (hsources s)

end Documents.Materializes

namespace Materialize

section Parts

variable {docs : Documents} {l m part : Location} {members : List (String × Json)}
  {properties own : SortedMap String Property}

/-- What is listed at a part is listed at the whole, unless only parts of the part list it. -/
theorem onlyDeeper_iff {names : List (String × Json) → List String} {k : String}
    (hself : ∀ schema, docs.schemaAt? m = some (.object schema) → docs.IsPart l (m, schema))
    (hk : ∃ s, docs.Contributes m s ∧ k ∈ names s.2) :
    docs.OnlyDeeper names l m k ↔ ¬∃ s, docs.Contributes l s ∧ k ∈ names s.2 := by
  constructor
  · rintro ⟨-, hnone⟩ ⟨s, hs, hks⟩
    exact hnone s hs hks
  · intro hnone
    refine ⟨?_, fun s hs hks => hnone ⟨s, hs, hks⟩⟩
    obtain ⟨s, hs, hks⟩ := hk
    cases hs with
    | self hschema => exact absurd ⟨_, .part (hself _ hschema), hks⟩ hnone
    | part hs => exact ⟨s, hs, hks⟩

/-- An object lacks a property of the object that one of its parts is on its own just if only parts
of that part name it, and it leaves open a property that the part requires just if only parts of
that part require it. So a part without parts loses nothing. -/
theorem allOf_loses_iff (hs : docs.schemaAt? l = some (.object members))
    (hpart : part ∈ partLocations members l) (hleads : docs.Leads part m)
    (hl : docs.Materializes l (.object properties)) (hm : docs.Materializes m (.object own))
    {k : String} {p : Property} (hk : own.get? k = some p) :
    (properties.get? k = none ↔ docs.OnlyDeeper propertyNames l m k) ∧
      (∀ q, properties.get? k = some q →
        (p.optional = false ∧ q.optional = true ↔ docs.OnlyDeeper requiredNames l m k)) ∧
      ((∀ s, ¬docs.IsPart m s) →
        ∃ q, properties.get? k = some q ∧ (p.optional = false → q.optional = false)) := by
  have hself : ∀ schema, docs.schemaAt? m = some (.object schema) → docs.IsPart l (m, schema) :=
    fun schema hschema => ⟨members, hs, part, hpart, hleads, hschema⟩
  have hlost : properties.get? k = none ↔ docs.OnlyDeeper propertyNames l m k := by
    rw [onlyDeeper_iff hself ((hm.properties_iff k).1 ⟨p, hk⟩), ← hl.properties_iff k,
      Option.eq_none_iff_forall_ne_some, not_exists]
  have hopen : ∀ q, properties.get? k = some q →
      (p.optional = false ∧ q.optional = true ↔ docs.OnlyDeeper requiredNames l m k) := by
    intro q hq
    have hrequired := hl.required_iff hq
    constructor
    · rintro ⟨hp, hopt⟩
      rw [onlyDeeper_iff hself ((hm.required_iff hk).1 hp), ← hrequired, hopt]
      exact nofun
    · intro hdeeper
      obtain ⟨s, hpart, hks⟩ := hdeeper.1
      have hreq : ∃ s, docs.Contributes m s ∧ k ∈ requiredNames s.2 := ⟨s, .part hpart, hks⟩
      rw [onlyDeeper_iff hself hreq, ← hrequired, Bool.not_eq_false] at hdeeper
      exact ⟨(hm.required_iff hk).2 hreq, hdeeper⟩
  refine ⟨hlost, hopen, fun hnone => ?_⟩
  have hno : ∀ names, ¬docs.OnlyDeeper names l m k := fun _ ⟨⟨s, hs, _⟩, _⟩ => hnone s hs
  obtain ⟨q, hq⟩ := Option.ne_none_iff_exists'.1 (mt hlost.1 (hno _))
  refine ⟨q, hq, fun hp => ?_⟩
  by_contra hopt
  exact hno _ ((hopen q hq).1 ⟨hp, by simpa using hopt⟩)

end Parts

/-! ## A part of a part -/

/-- Two levels of parts: the inner one names what the outer one does not. -/
def layered : List (String × Json) :=
  [("properties", .object [("b", .bool true)]),
    ("allOf", .array [.object [("allOf", .array [.object
      [("properties", .object [("a", .bool true)]), ("required", .array [.string "a"])]])]])]

def layeredRoot : Location := .root ⟨"layered"⟩

def layeredPart : Location := (layeredRoot.push "allOf").push "0"

def layeredTopLevels : List (String × Location) :=
  [("Whole", layeredRoot), ("Part", layeredPart)]

/-- A resolver whose store has the schema everywhere. -/
def layeredResolver : Resolver := .new ⟨[], some fun _ _ => .ok (some (.object layered))⟩ []

def layeredRun : Except SchemaError Unit × Resolver × Graph :=
  run 8 [] layeredTopLevels layeredResolver .empty

def layeredReferences : List (Location × TypeRef) :=
  allReferences [] 8 layeredTopLevels ⟨layeredResolver, Graph.empty, []⟩

theorem layered_materializes {l : Location} {t : TypeRef} {n : Node} {schema : Json}
    (hschema : layeredRun.2.1.known.schemaAt? l = some schema) (hr : reference? schema = none)
    (hmem : (l, t) ∈ layeredReferences) (hn : layeredRun.2.2.node? t = some n) :
    layeredRun.2.1.known.Materializes l n := by
  have hok : layeredRun.1 = .ok () := by decide +kernel
  have hrun : layeredRun = (.ok (), layeredRun.2.1, layeredRun.2.2) :=
    Prod.ext hok (Prod.eta layeredRun.2).symm
  exact .run ⟨[], .empty⟩ (by decide) hrun (.refl _) hmem (.here hschema hr) hn

def layeredKnown : Documents := layeredRun.2.1.known

def layeredOuter : List (String × Json) :=
  [("allOf", .array [.object
    [("properties", .object [("a", .bool true)]), ("required", .array [.string "a"])]])]

theorem layered_root : layeredKnown.schemaAt? layeredRoot = some (.object layered) := by
  decide +kernel

theorem layered_part : layeredKnown.schemaAt? layeredPart = some (.object layeredOuter) := by
  decide +kernel

def layeredWhole : SortedMap String Property := .ofList [("b", ⟨1, true⟩)]

def layeredOwn : SortedMap String Property := .ofList [("a", ⟨3, false⟩)]

theorem layered_whole : layeredKnown.Materializes layeredRoot (.object layeredWhole) :=
  have hn : layeredRun.2.2.node? 0 = some (.object layeredWhole) := by decide +kernel
  layered_materializes layered_root rfl (by decide +kernel) hn

theorem layered_own : layeredKnown.Materializes layeredPart (.object layeredOwn) :=
  have hn : layeredRun.2.2.node? 2 = some (.object layeredOwn) := by decide +kernel
  layered_materializes layered_part rfl (by decide +kernel) hn

theorem allOf_loses_iff_layered :
    layeredWhole.get? "a" = none ↔
      layeredKnown.OnlyDeeper propertyNames layeredRoot layeredPart "a" :=
  have hpart : layeredPart ∈ partLocations layered layeredRoot := by decide
  (allOf_loses_iff layered_root hpart (.here layered_part rfl) layered_whole layered_own
    (show layeredOwn.get? "a" = some ⟨3, false⟩ by decide)).1

/-- The part has `a`, which only its own part names, and the whole lacks it. -/
theorem layered_loses :
    layeredRun.1 = .ok () ∧ layeredKnown.schemaAt? layeredRoot = some (.object layered) ∧
      layeredPart ∈ partLocations layered layeredRoot ∧
      layeredKnown.Leads layeredPart layeredPart ∧
      layeredKnown.Materializes layeredPart (.object layeredOwn) ∧
      layeredKnown.Materializes layeredRoot (.object layeredWhole) ∧
      layeredOwn.get? "a" = some ⟨3, false⟩ ∧ layeredWhole.get? "a" = none :=
  ⟨by decide +kernel, layered_root, by decide, .here layered_part rfl, layered_own, layered_whole,
    by decide, by decide⟩

end Materialize

end JsonTypes
