import JsonTypes.Proofs.Schema.Resolving
import Mathlib.Data.Set.Finite.Lattice

/-!
# Locations that a run can come to

From its top levels a run comes to the places inside a place, and to the targets of references
(`Documents.Reachable`). With finitely many documents there are finitely many such locations
(`Documents.finite_reachable`), although one place may have many names: a reference may write a
position with zeros in front, but there are only so many references, and on the way inwards every
position is written in one way.
-/

namespace JsonTypes

namespace Json

/-- What leads one step inwards. -/
def tokens : Json → List String
  | object members => Entries.keys members
  | array items => (List.range items.length).map toString
  | _ => []

/-- The values one step further in. -/
def children : Json → List Json
  | object members => members.map (·.2)
  | array items => items
  | _ => []

theorem mem_children_of_child? {v w : Json} {token : String} (h : v.child? token = some w) :
    w ∈ v.children := by
  cases v with
  | object members => exact List.mem_map.2 ⟨_, Entries.mem_of_get? h, rfl⟩
  | array items =>
    obtain ⟨i, -, hi⟩ := Option.bind_eq_some_iff.1 h
    exact List.mem_of_getElem? hi
  | _ => cases h

theorem sizeOf_lt_of_mem_children {v w : Json} (h : w ∈ v.children) : sizeOf w < sizeOf v := by
  cases v with
  | object members =>
    obtain ⟨⟨k, x⟩, he, rfl⟩ := List.mem_map.1 h
    have hlt := List.sizeOf_lt_of_mem he
    have hpair : sizeOf (k, x) = 1 + sizeOf k + sizeOf x := rfl
    have hobject := Json.object.sizeOf_spec members
    simp only
    omega
  | array items =>
    have hlt : sizeOf w < sizeOf items := List.sizeOf_lt_of_mem h
    have harray := Json.array.sizeOf_spec items
    omega
  | _ => cases h

theorem follow_append {v w : Json} {path : List String} (h : v.follow path = .ok w)
    (more : List String) : v.follow (path ++ more) = w.follow more := by
  induction path generalizing v with
  | nil =>
    cases h
    rfl
  | cons token rest ih =>
    rw [follow] at h
    rw [List.cons_append, follow]
    rcases hc : v.child? token with _ | child <;> simp only [hc] at h ⊢
    · cases h
    · exact ih h

theorem finite_follow (v : Json) : {w | ∃ path, v.follow path = .ok w}.Finite := by
  induction hn : sizeOf v using Nat.strong_induction_on generalizing v with
  | _ n ih =>
    have hinner : (⋃ c ∈ {c | c ∈ v.children}, {w | ∃ path, c.follow path = .ok w}).Finite :=
      (List.finite_toSet v.children).biUnion fun c hc =>
        ih (sizeOf c) (hn ▸ sizeOf_lt_of_mem_children hc) c rfl
    refine (hinner.insert v).subset ?_
    rintro w ⟨_ | ⟨token, rest⟩, h⟩
    · cases h
      exact Set.mem_insert _ _
    · rw [follow] at h
      rcases hc : v.child? token with _ | c <;> simp only [hc] at h
      · cases h
      · exact Set.mem_insert_of_mem _ (Set.mem_biUnion (mem_children_of_child? hc) ⟨rest, h⟩)

end Json

namespace Documents

variable {docs : Documents} {starts : List Location}

/-- The locations that a run can come to. -/
inductive Reachable (docs : Documents) (starts : List Location) : Location → Prop
  | start {l} : l ∈ starts → Reachable docs starts l
  | inside {l v token} : Reachable docs starts l → docs.schemaAt? l = some v → token ∈ v.tokens →
      Reachable docs starts (l.push token)
  | target {l v reference target} : Reachable docs starts l → docs.schemaAt? l = some v →
      Materialize.reference? v = some reference →
      docs.locate? (l.document.resolve reference) = some target → Reachable docs starts target

/-- The locations from a place inwards. -/
inductive Beneath (docs : Documents) (l : Location) : Location → Prop
  | here : Beneath docs l l
  | inside {l' v token} : Beneath docs l l' → docs.schemaAt? l' = some v → token ∈ v.tokens →
      Beneath docs l (l'.push token)

theorem schemaAt?_eq_some {l : Location} {v : Json} :
    docs.schemaAt? l = some v ↔ ∃ d, docs l.document = some d ∧ d.follow l.path = .ok v := by
  unfold schemaAt?
  rw [Option.bind_eq_some_iff]
  refine exists_congr fun d => and_congr_right fun _ => ?_
  unfold lookup
  rcases d.follow l.path with _ | w
  · exact ⟨nofun, nofun⟩
  · exact ⟨fun h => congrArg _ (Option.some.inj h), fun h => congrArg _ (Except.ok.inj h)⟩

theorem schemaAt?_push {l : Location} {v : Json} (h : docs.schemaAt? l = some v) (token : String) :
    docs.schemaAt? (l.push token) = v.child? token := by
  obtain ⟨d, hd, hv⟩ := schemaAt?_eq_some.1 h
  have hfollow : d.follow (l.push token).path = v.follow [token] := Json.follow_append hv [token]
  unfold schemaAt? lookup
  rw [show (l.push token).document = l.document from rfl, hd, Option.bind_some, hfollow,
    Json.follow]
  rcases v.child? token with _ | w <;> rfl

theorem Beneath.cases_head {l l' : Location} {v : Json} (hv : docs.schemaAt? l = some v)
    (h : docs.Beneath l l') : l' = l ∨ ∃ token ∈ v.tokens, docs.Beneath (l.push token) l' := by
  induction h with
  | here => exact .inl rfl
  | @inside l' w token _ hw ht ih =>
    rcases ih with rfl | ⟨first, hfirst, hbeneath⟩
    · rw [hv] at hw
      cases hw
      exact .inr ⟨token, ht, .here⟩
    · exact .inr ⟨first, hfirst, hbeneath.inside hw ht⟩

theorem Beneath.eq_of_none {l l' : Location} (hv : docs.schemaAt? l = none)
    (h : docs.Beneath l l') : l' = l := by
  induction h with
  | here => rfl
  | inside _ hw _ ih =>
    rw [ih, hv] at hw
    cases hw

theorem finite_beneath (docs : Documents) (l : Location) : {l' | docs.Beneath l l'}.Finite := by
  rcases hv : docs.schemaAt? l with _ | v
  · exact (Set.finite_singleton l).subset fun l' h => h.eq_of_none hv
  · induction hn : sizeOf v using Nat.strong_induction_on generalizing l v with
    | _ n ih =>
      have hinner :
          (⋃ token ∈ {t | t ∈ v.tokens}, {l' | docs.Beneath (l.push token) l'}).Finite := by
        refine (List.finite_toSet v.tokens).biUnion fun token _ => ?_
        have hchild := schemaAt?_push hv token
        rcases hw : v.child? token with _ | w
        · rw [hw] at hchild
          exact (Set.finite_singleton (l.push token)).subset fun l' h => h.eq_of_none hchild
        · exact ih (sizeOf w) (hn ▸ Json.sizeOf_lt_of_mem_children (Json.mem_children_of_child? hw))
            (l.push token) w (hchild.trans hw) rfl
      refine (hinner.insert l).subset fun l' h => ?_
      rcases h.cases_head hv with rfl | ⟨token, ht, h⟩
      · exact Set.mem_insert _ _
      · exact Set.mem_insert_of_mem _ (Set.mem_biUnion ht h)

/-- The targets of all references that stand anywhere in the documents. -/
def targets (docs : Documents) : Set Location :=
  ⋃ id ∈ {id | ∃ d, docs id = some d},
    ⋃ v ∈ {v | ∃ d, docs id = some d ∧ ∃ path, d.follow path = .ok v},
      {l | ∃ reference, Materialize.reference? v = some reference ∧
        docs.locate? (id.resolve reference) = some l}

theorem finite_targets (hdocs : {id | ∃ d, docs id = some d}.Finite) : docs.targets.Finite := by
  refine hdocs.biUnion fun id _ => Set.Finite.biUnion ?_ fun v _ => Set.Subsingleton.finite ?_
  · rcases hd : docs id with _ | d
    · simp
    · simpa using Json.finite_follow d
  · rintro l ⟨reference, hr, hl⟩ l' ⟨reference', hr', hl'⟩
    rw [hr] at hr'
    cases hr'
    rw [hl] at hl'
    exact Option.some.inj hl'

theorem finite_reachable (hdocs : {id | ∃ d, docs id = some d}.Finite) :
    {l | docs.Reachable starts l}.Finite := by
  have hstarts : ({l | l ∈ starts} ∪ docs.targets).Finite :=
    (List.finite_toSet starts).union (finite_targets hdocs)
  refine (hstarts.biUnion fun l _ => docs.finite_beneath l).subset fun l h => ?_
  rw [Set.mem_iUnion₂]
  induction h with
  | start hl => exact ⟨_, .inl hl, .here⟩
  | inside _ hv ht ih =>
    obtain ⟨s, hs, hbeneath⟩ := ih
    exact ⟨s, hs, hbeneath.inside hv ht⟩
  | @target l v reference target _ hv hr hl _ =>
    obtain ⟨d, hd, hpath⟩ := schemaAt?_eq_some.1 hv
    refine ⟨target, .inr ?_, .here⟩
    exact Set.mem_biUnion (show _ from ⟨d, hd⟩)
      (Set.mem_biUnion (show _ from ⟨d, hd, l.path, hpath⟩) ⟨reference, hr, hl⟩)

end Documents

end JsonTypes
