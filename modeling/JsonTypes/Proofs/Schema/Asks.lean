import JsonTypes.Proofs.Schema.Keywords
import JsonTypes.Proofs.Schema.Region

/-!
# What plans ask about

A plan stays within a set of locations if it asks about no others, whatever types it is given and
whatever schemas it is told that are right (`Plan.Within`). The plan for a schema that stands at a
reachable location stays within the reachable ones (`planFor_within`), and where it fails, it does
not fail for want of steps.
-/

namespace JsonTypes.Materialize

/-- Whatever the answers, the plan asks about locations in the set only, its result is as wanted,
and it does not fail for want of steps. -/
def Plan.Within (docs : Documents) (region : Location → Prop) {α : Type} (wanted : α → Prop) :
    Plan α → Prop
  | .done a => wanted a
  | .fail e => e ≠ .outOfSteps
  | .typeAt l next => region l ∧ ∀ t, (next t).Within docs region wanted
  | .schemaBehind l next => region l ∧ ∀ p, region p.1 → docs.schemaAt? p.1 = some p.2 →
      (next p).Within docs region wanted
  | .share _ next => ∀ t, (next t).Within docs region wanted

namespace Plan

variable {docs : Documents} {region : Location → Prop} {α β : Type}

theorem Within.mono {wanted wanted' : α → Prop} (h : ∀ a, wanted a → wanted' a) {p : Plan α}
    (hp : p.Within docs region wanted) : p.Within docs region wanted' := by
  induction p with
  | done a => exact h a hp
  | fail e => exact hp
  | typeAt l next ih => exact ⟨hp.1, fun t => ih t (hp.2 t)⟩
  | schemaBehind l next ih => exact ⟨hp.1, fun q hq hs => ih q (hp.2 q hq hs)⟩
  | share n next ih => exact fun t => ih t (hp t)

theorem Within.bind {wanted : α → Prop} {wanted' : β → Prop} {p : Plan α} {f : α → Plan β}
    (hp : p.Within docs region wanted) (hf : ∀ a, wanted a → (f a).Within docs region wanted') :
    (p >>= f).Within docs region wanted' := by
  induction p with
  | done a => exact hf a hp
  | fail e => exact hp
  | typeAt l next ih => exact ⟨hp.1, fun t => ih t (hp.2 t)⟩
  | schemaBehind l next ih => exact ⟨hp.1, fun q hq hs => ih q (hp.2 q hq hs)⟩
  | share n next ih => exact fun t => ih t (hp t)

theorem within_askType {l : Location} (hl : region l) :
    (askType l).Within docs region fun _ => True :=
  ⟨hl, fun _ => trivial⟩

theorem within_askShared (n : Node) : (askShared n).Within docs region fun _ => True :=
  fun _ => trivial

theorem within_askEach {wanted : β → Prop} {ask : α → Plan β} : ∀ {as : List α},
    (∀ a ∈ as, (ask a).Within docs region wanted) →
      (askEach ask as).Within docs region fun bs => ∀ b ∈ bs, wanted b
  | [], _ => nofun
  | a :: rest, h => by
    refine (h a List.mem_cons_self).bind fun b hb => ?_
    refine (within_askEach fun a' ha' => h a' (List.mem_cons_of_mem _ ha')).bind fun bs hbs => ?_
    exact List.forall_mem_cons.2 ⟨hb, hbs⟩

theorem within_askTypes {ls : List Location} (h : ∀ l ∈ ls, region l) :
    (askEach askType ls).Within docs region fun _ => True :=
  (within_askEach fun l hl => within_askType (h l hl)).mono fun _ _ => trivial

theorem within_askAllShared (ns : List Node) :
    (askEach askShared ns).Within docs region fun _ => True :=
  (within_askEach fun n _ => within_askShared n).mono fun _ _ => trivial

end Plan

open Plan

/-! ## Reachable locations -/

section Reachable

variable {docs : Documents} {starts : List Location} {l : Location}

theorem reachable_of_leads {l' : Location} (hl : docs.Reachable starts l) (h : docs.Leads l l') :
    docs.Reachable starts l' := by
  induction h with
  | here => exact hl
  | there hv hr ht _ ih => exact ih (hl.target hv hr ht)

theorem reachable_member (hl : docs.Reachable starts l) {schema : List (String × Json)}
    (hs : docs.schemaAt? l = some (.object schema)) {keyword : String} {v : Json}
    (hk : Entries.get? schema keyword = some v) :
    docs.Reachable starts (l.push keyword) ∧ docs.schemaAt? (l.push keyword) = some v :=
  ⟨hl.inside hs (Entries.mem_keys_iff.2 ⟨v, hk⟩), (Documents.schemaAt?_push hs keyword).trans hk⟩

theorem reachable_element (hl : docs.Reachable starts l) {items : List Json}
    (hs : docs.schemaAt? l = some (.array items)) {l' : Location}
    (hl' : l' ∈ elementLocations l items) : docs.Reachable starts l' := by
  obtain ⟨i, hi, rfl⟩ := List.mem_map.1 hl'
  exact hl.inside hs (List.mem_map.2 ⟨i, hi, rfl⟩)

variable {schema : List (String × Json)}

theorem reachable_of_arrayAt (hl : docs.Reachable starts l)
    (hs : docs.schemaAt? l = some (.object schema)) {keyword : String} {items : List Json}
    (hk : arrayAt schema keyword = some items) {l' : Location}
    (hl' : l' ∈ elementLocations (l.push keyword) items) : docs.Reachable starts l' := by
  obtain ⟨v, hv, hitems⟩ := Option.bind_eq_some_iff.1 hk
  cases v <;> cases hitems
  obtain ⟨hreach, hschema⟩ := reachable_member hl hs hv
  exact reachable_element hreach hschema hl'

theorem reachable_partLocations (hl : docs.Reachable starts l)
    (hs : docs.schemaAt? l = some (.object schema)) :
    ∀ l' ∈ partLocations schema l, docs.Reachable starts l' := by
  intro l' hl'
  unfold partLocations at hl'
  rcases ha : arrayAt schema "allOf" with _ | parts <;> simp only [ha] at hl'
  · cases hl'
  · exact reachable_of_arrayAt hl hs ha hl'

theorem reachable_optionLocations (hl : docs.Reachable starts l)
    (hs : docs.schemaAt? l = some (.object schema)) :
    ∀ l' ∈ optionLocations schema l, docs.Reachable starts l' := by
  intro l' hl'
  obtain ⟨keyword, -, hl'⟩ := List.mem_flatMap.1 hl'
  rcases ha : arrayAt schema keyword with _ | options <;> simp only [ha] at hl'
  · cases hl'
  · exact reachable_of_arrayAt hl hs ha hl'

/-- A source is an object schema at a reachable location. -/
def SourceWithin (docs : Documents) (starts : List Location) (s : Source) : Prop :=
  docs.Reachable starts s.1 ∧ docs.schemaAt? s.1 = some (.object s.2)

theorem reachable_property {s : Source} (hs : SourceWithin docs starts s) {k : String}
    (hk : k ∈ propertyNames s.2) : docs.Reachable starts ((s.1.push "properties").push k) := by
  unfold propertyNames at hk
  rcases hp : Entries.get? s.2 "properties" with _ | _ | _ | _ | _ | _ | properties <;>
    simp only [hp, List.not_mem_nil] at hk
  obtain ⟨hreach, hschema⟩ := reachable_member hs.1 hs.2 hp
  exact hreach.inside hschema hk

end Reachable

/-! ## Plans for schemas -/

section Plans

variable {docs : Documents} {starts : List Location}

theorem objectPlan_within {sources : List Source} (hs : ∀ s ∈ sources, SourceWithin docs starts s) :
    (objectPlan sources).Within docs (docs.Reachable starts) fun _ => True := by
  have hrules := ObjectRules.ofSources_from sources
  unfold objectPlan
  generalize ObjectRules.ofSources sources = rules at hrules
  simp only
  split_ifs
  · rcases ha : rules.additional with _ | l
    · exact (within_askShared .any).bind fun _ _ => trivial
    · obtain ⟨s, hmem, members, hm, rfl⟩ := hrules.additional l ha
      exact (within_askType (reachable_member (hs s hmem).1 (hs s hmem).2 hm).1).bind
        fun _ _ => trivial
  · have hproperties : ∀ p ∈ rules.properties,
        (propertyPlan rules.required p).Within docs (docs.Reachable starts) fun _ => True := by
      intro p hp
      obtain ⟨s, hmem, hk, hl⟩ := hrules.properties p.1 p.2 hp
      have hreach : docs.Reachable starts p.2 := hl ▸ reachable_property (hs s hmem) hk
      exact (within_askType hreach).bind fun _ _ => trivial
    exact (within_askEach hproperties).bind fun _ _ => trivial

theorem arrayPlan_within {schema : List (String × Json)} {l : Location}
    (hs : SourceWithin docs starts (l, schema)) :
    (arrayPlan schema l).Within docs (docs.Reachable starts) fun _ => True := by
  have hone : ∀ {item}, Entries.get? schema "items" = some item →
      (askType (l.push "items") >>= fun t => pure (Node.array t)).Within docs
        (docs.Reachable starts) fun _ => True := fun hi =>
    (within_askType (reachable_member hs.1 hs.2 hi).1).bind fun _ _ => trivial
  have hany : (askShared .any >>= fun t => pure (Node.array t)).Within docs
      (docs.Reachable starts) fun _ => True :=
    (within_askShared .any).bind fun _ _ => trivial
  unfold arrayPlan
  rcases hi : Entries.get? schema "items" with _ | _ | b | _ | _ | ⟨_ | ⟨item, rest⟩⟩ | ms
  case some.bool => exact hone hi
  case some.object => exact hone hi
  case some.array.cons =>
    obtain ⟨hreach, hschema⟩ := reachable_member hs.1 hs.2 hi
    refine (within_askTypes fun l' hl' => reachable_element hreach hschema hl').bind fun _ _ => ?_
    exact (within_askShared _).bind fun _ _ => trivial
  all_goals exact hany

theorem planForType_within {schema : List (String × Json)} {l : Location} {sources : List Source}
    (hself : SourceWithin docs starts (l, schema)) (hs : ∀ s ∈ sources, SourceWithin docs starts s)
    (type : String) :
    (planForType type schema sources l).Within docs (docs.Reachable starts) fun _ => True := by
  unfold planForType
  split
  · exact trivial
  · exact trivial
  · exact trivial
  · exact trivial
  · exact trivial
  · exact arrayPlan_within hself
  · exact objectPlan_within hs
  · exact nofun

theorem declaredTypes_ne (schema : List (String × Json)) (l : Location) :
    declaredTypes schema l ≠ .error .outOfSteps := by
  unfold declaredTypes
  split
  · exact nofun
  · exact nofun
  · split <;> exact nofun
  · exact nofun

theorem firstDeclaredTypes_ne {l : Location} : ∀ sources : List Source,
    firstDeclaredTypes l sources ≠ .error .outOfSteps
  | [] => nofun
  | (_, part) :: rest => by
    have hpart := declaredTypes_ne part l
    rw [firstDeclaredTypes]
    generalize declaredTypes part l = found at hpart
    rcases found with e | _ | types <;> simp only
    · exact Action.error_ne hpart
    · exact firstDeclaredTypes_ne rest
    · exact nofun

theorem typesOf_ne {schema : List (String × Json)} {sources : List Source} {l : Location} :
    typesOf schema sources l ≠ .error .outOfSteps := by
  have hself := declaredTypes_ne schema l
  unfold typesOf
  generalize declaredTypes schema l = found at hself
  rcases found with e | _ | types <;> simp only
  · exact Action.error_ne hself
  · split_ifs
    · exact nofun
    · have hfirst := firstDeclaredTypes_ne (l := l) sources.tail
      unfold inferredTypes
      generalize firstDeclaredTypes l sources.tail = first at hfirst
      rcases first with e | _ | types <;> simp only
      · exact Action.error_ne hfirst
      · exact nofun
      · exact nofun
  · exact nofun

theorem within_ofExcept {α : Type} {region : Location → Prop} {x : Except SchemaError α}
    (h : x ≠ .error .outOfSteps) : (ofExcept x).Within docs region fun _ => True := by
  rcases x with e | a
  · exact fun he => h (congrArg _ he)
  · exact trivial

theorem ownPlan_within {schema : List (String × Json)} {l : Location} {sources : List Source}
    (hself : SourceWithin docs starts (l, schema))
    (hs : ∀ s ∈ sources, SourceWithin docs starts s) :
    (ownPlan schema sources l).Within docs (docs.Reachable starts) fun _ => True := by
  unfold ownPlan
  split
  · exact trivial
  · refine (within_ofExcept typesOf_ne).bind fun types _ => ?_
    exact (within_askEach fun type _ => planForType_within hself hs type).bind fun _ _ => trivial

theorem combine_within (options : List TypeRef) (nodes : List Node) {region : Location → Prop} :
    (combine options nodes).Within docs region fun _ => True := by
  unfold combine
  split
  · exact trivial
  · exact trivial
  · exact (within_askAllShared nodes).bind fun _ _ => trivial

theorem objectSchemaPlan_within {schema : List (String × Json)} {l : Location}
    (hself : SourceWithin docs starts (l, schema)) :
    (objectSchemaPlan schema l).Within docs (docs.Reachable starts) fun _ => True := by
  have hparts : (askEach askSchema (partLocations schema l)).Within docs (docs.Reachable starts)
      fun found => ∀ p ∈ found, docs.Reachable starts p.1 ∧ docs.schemaAt? p.1 = some p.2 :=
    within_askEach fun l' hl' =>
      ⟨reachable_partLocations hself.1 hself.2 l' hl', fun p hp hschema => ⟨hp, hschema⟩⟩
  refine hparts.bind fun found hfound => ?_
  refine (within_askTypes (reachable_optionLocations hself.1 hself.2)).bind fun options _ => ?_
  have hs : ∀ s ∈ (l, schema) :: found.filterMap source?, SourceWithin docs starts s := by
    intro s hmem
    rcases List.mem_cons.1 hmem with rfl | hmem
    · exact hself
    · obtain ⟨⟨l', w⟩, hw, hsource⟩ := List.mem_filterMap.1 hmem
      cases w <;> cases hsource
      exact hfound _ hw
  exact (ownPlan_within hself hs).bind fun nodes _ => combine_within options nodes

theorem planFor_within {schema : Json} {l : Location} (hl : docs.Reachable starts l)
    (hs : docs.schemaAt? l = some schema) :
    (planFor schema l).Within docs (docs.Reachable starts) fun _ => True := by
  cases schema with
  | bool b => cases b <;> exact trivial
  | object members => exact objectSchemaPlan_within ⟨hl, hs⟩
  | _ => exact nofun

end Plans

end JsonTypes.Materialize
