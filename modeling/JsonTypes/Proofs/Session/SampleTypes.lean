import JsonTypes.Proofs.Samples.Order
import JsonTypes.Proofs.Schema.Resolving
import JsonTypes.Session.SampleSets

/-!
# The types of sets of samples

The sets of samples become top levels in turn (`SampleSets.addTypesOf_cons`), and the types of one
set leave those of the others as they were (`SampleSets.addTypesOf_keeps`). So what the type of a
set unfolds to depends on nothing but which samples the set has, how often (`infer_perm`).
-/

namespace JsonTypes

namespace SampleSets

open Shape

variable {c : InferenceConfig} {g g' : Graph} {name : String} {set set' : SampleSet}
  {sets : Entries String SampleSet}

section Sink

variable {σ : Type} [Sink σ]

/-- The set's top level has a node of its own if it is described, or if all have. -/
def isFresh (c : InferenceConfig) (set : SampleSet) : Bool :=
  set.description.isSome || c.fixedTopLevels

/-- Registers the type of a set, with its description. -/
def register (name : String) (set : SampleSet) (t : TypeRef) : StateM σ Unit := do
  Sink.addTopLevel name t
  match set.description with
  | some description => Sink.addAttributes t (.ofDescription description)
  | none => pure ()

omit [Sink σ] in
theorem lift_bind {ε α β : Type} (x : StateM σ α) (f : α → TryBuild σ ε β) (sink : σ) :
    ((liftM x : TryBuild σ ε α) >>= f) sink = f (x sink).1 (x sink).2 := rfl

theorem addType_eq (c : InferenceConfig) (name : String) (set : SampleSet) (sink : σ) :
    addType c name set sink =
      match (infer c (isFresh c set) set.samples : TryBuild σ InferenceError TypeRef) sink with
      | (Except.ok t, sink) => (.ok (), (register name set t sink).2)
      | (Except.error e, sink) => (.error (.inference name e), sink) := by
  have hinfer : (if set.description.isSome then inferDistinctTopLevel else inferTopLevel) c
      set.samples = (infer c (isFresh c set) set.samples : TryBuild σ _ _) := by
    unfold isFresh
    rcases set.description with _ | description <;> rfl
  rw [addType, hinfer, lift_bind, ExceptT.run]
  rcases infer c (isFresh c set) set.samples sink with ⟨e | t, sink⟩
  · rfl
  · unfold register
    rcases set.description with _ | description <;> rfl

theorem addTypesOf_cons (c : InferenceConfig) (name : String) (set : SampleSet)
    (rest : Entries String SampleSet) (sink : σ) :
    addTypesOf c ((name, set) :: rest) sink =
      match addType c name set sink with
      | (Except.ok (), sink) => addTypesOf c rest sink
      | (Except.error e, sink) => (.error e, sink) := by
  rw [addTypesOf, Action.bind_apply]
  rcases addType c name set sink with ⟨_ | _, _⟩ <;> rfl

end Sink

theorem register_grown (name : String) (set : SampleSet) (t : TypeRef) (hg : g.Exact) :
    g.Grown (register name set t g).2 ∧
      (register name set t g).2.topLevels = g.topLevels.put name t := by
  have hunread : (register name set t g).2.nodes = g.nodes ∧
      (register name set t g).2.interned = g.interned ∧
      (register name set t g).2.topLevels = g.topLevels.put name t := by
    unfold register
    rcases set.description with _ | description
    · exact ⟨rfl, rfl, rfl⟩
    · exact Graph.attributes_unread (.ofDescription description) t (Graph.addTopLevel name t g).2
  obtain ⟨hnodes, hinterned, htop⟩ := hunread
  have hnode : ∀ u, (register name set t g).2.node? u = g.node? u := fun u => by
    rw [Graph.node?, hnodes, Graph.node?]
  exact ⟨⟨fun u n hu => (hnode u).trans hu, fun n u hu => (hnode u).trans (hg n u (hinterned ▸ hu))⟩,
    htop⟩

theorem addType_cases (c : InferenceConfig) (name : String) (set : SampleSet) (hg : g.Exact) :
    (∃ e, addType c name set g = (.error (.inference name e), g)) ∨
      ∃ t g', addType c name set g = (.ok (), g') ∧ g.Grown g' ∧ Inferred c g' set.samples t ∧
        g'.topLevels = g.topLevels.put name t := by
  rcases infer_cases c (isFresh c set) set.samples hg with ⟨-, h⟩ | ⟨-, -, h⟩ |
    ⟨-, -, t, g', h, hgrown, hkept, ht⟩ <;> rw [addType_eq, h]
  · exact .inl ⟨_, rfl⟩
  · exact .inl ⟨_, rfl⟩
  · obtain ⟨hregister, htop⟩ := register_grown name set t hgrown.exact
    exact .inr ⟨t, _, rfl, hgrown.trans hregister, ht.mono hregister.kept, hkept ▸ htop⟩

/-- What the types of other sets leave as it was. -/
theorem addTypesOf_keeps (sets : Entries String SampleSet) (name : String) (c : InferenceConfig)
    (hg : g.Exact) :
    g.Grown (addTypesOf c sets g).2 ∧
      (name ∉ Entries.keys sets → (addTypesOf c sets g).2.topLevel? name = g.topLevel? name) := by
  induction sets generalizing g with
  | nil => exact ⟨hg.grown, fun _ => rfl⟩
  | cons entry rest ih =>
    obtain ⟨other, set⟩ := entry
    rw [addTypesOf_cons]
    rcases addType_cases c other set hg with ⟨e, h⟩ | ⟨t, g₁, h, hgrown, -, htop⟩ <;> rw [h]
    · exact ⟨hg.grown, fun _ => rfl⟩
    · obtain ⟨hrest, hkept⟩ := ih hgrown.exact
      refine ⟨hgrown.trans hrest, fun hname => ?_⟩
      rw [Entries.keys_cons, List.mem_cons, not_or] at hname
      rw [hkept hname.2, Graph.topLevel?, htop, Entries.get?_put, if_neg (Ne.symm hname.1)]
      rfl

/-- Adding types gets as far as the set of a name. -/
def Adds (c : InferenceConfig) (s : SampleSets) (g : Graph) (name : String) (set : SampleSet) :
    Prop :=
  ∃ before after, s.sets = before ++ (name, set) :: after ∧
    (addTypesOf c (before ++ [(name, set)]) g).1 = .ok ()

theorem exists_topLevel_of_split {before after : Entries String SampleSet} (hg : g.Exact)
    (hn : (Entries.keys (before ++ (name, set) :: after)).Nodup)
    (hok : (addTypesOf c (before ++ [(name, set)]) g).1 = .ok ()) :
    ∃ t, (addTypesOf c (before ++ (name, set) :: after) g).2.topLevel? name = some t ∧
      Inferred c (addTypesOf c (before ++ (name, set) :: after) g).2 set.samples t := by
  induction before generalizing g with
  | nil =>
    rw [List.nil_append] at hn hok ⊢
    rw [addTypesOf_cons] at hok ⊢
    rcases addType_cases c name set hg with ⟨e, h⟩ | ⟨t, g₁, h, hgrown, ht, htop⟩ <;> rw [h] at hok ⊢
    · cases hok
    · obtain ⟨hrest, hkept⟩ := addTypesOf_keeps after name c hgrown.exact
      refine ⟨t, ?_, ht.mono hrest.kept⟩
      rw [hkept (List.nodup_cons.1 hn).1, Graph.topLevel?, htop, Entries.get?_put, if_pos rfl]
  | cons entry rest ih =>
    obtain ⟨other, set'⟩ := entry
    rw [List.cons_append] at hn hok ⊢
    rw [addTypesOf_cons] at hok ⊢
    rcases addType_cases c other set' hg with ⟨e, h⟩ | ⟨t, g₁, h, hgrown, -, -⟩ <;> rw [h] at hok ⊢
    · cases hok
    · exact ih hgrown.exact (List.nodup_cons.1 hn).2 hok

theorem Adds.exists_topLevel {s : SampleSets} (h : s.Adds c g name set) (hg : g.Exact)
    (hn : (Entries.keys s.sets).Nodup) :
    ∃ t, (s.addTypes c g).2.topLevel? name = some t ∧
      Inferred c (s.addTypes c g).2 set.samples t := by
  obtain ⟨before, after, hsets, hok⟩ := h
  rw [addTypes, hsets]
  exact exists_topLevel_of_split hg (hsets ▸ hn) hok

end SampleSets

open SampleSets

/-- Which samples there are, and how often each, is all that inference depends on, on whatever
graphs it works. Through any sets of samples that lead to a type for such samples, the types of
top levels unfold alike as well. -/
theorem infer_perm {samples samples' : List Json} (hp : samples.Perm samples')
    (c : InferenceConfig) {g g' : Graph} (hg : g.Reachable) (hg' : g'.Reachable) :
    SameType (inferTopLevel c samples g) (inferTopLevel c samples' g') ∧
      SameType (inferDistinctTopLevel c samples g) (inferDistinctTopLevel c samples' g') ∧
      ∀ (s s' : SampleSets) (name name' : String) (description description' : Option String),
        (Entries.keys s.sets).Nodup → (Entries.keys s'.sets).Nodup →
        s.Adds c g name ⟨samples, description⟩ → s'.Adds c g' name' ⟨samples', description'⟩ →
        ∃ t t', (s.addTypes c g).2.topLevel? name = some t ∧
          (s'.addTypes c g').2.topLevel? name' = some t' ∧
          (s.addTypes c g).2.Bisimilar (s'.addTypes c g').2 t t' := by
  refine ⟨infer_sameType hp hg.exact hg'.exact, infer_sameType hp hg.exact hg'.exact, ?_⟩
  intro s s' name name' description description' hn hn' h h'
  obtain ⟨t, ht, hinferred⟩ := h.exists_topLevel hg.exact hn
  obtain ⟨t', ht', hinferred'⟩ := h'.exists_topLevel hg'.exact hn'
  exact ⟨t, t', ht, ht', hinferred.bisimilar hp hinferred'⟩

/-- Two samples in either order, with another set before and a type in the graph. -/
theorem infer_perm_swapped :
    let samples : List Json := [.object [("a", .int 1)], .string "x"]
    let samples' : List Json := [.string "x", .object [("a", .int 1)]]
    let s : SampleSets := ⟨[("A", ⟨samples, none⟩)]⟩
    let s' : SampleSets := ⟨[("B", ⟨[.null], some "nothing"⟩), ("A", ⟨samples', none⟩)]⟩
    let g' : Graph := (Graph.intern (.array 0) .empty).2
    let left := (s.addTypes .default Graph.empty).2
    let right := (s'.addTypes .default g').2
    samples.Perm samples' ∧
      SameType (inferTopLevel .default samples Graph.empty) (inferTopLevel .default samples' g') ∧
      ∃ t t', left.topLevel? "A" = some t ∧ right.topLevel? "A" = some t' ∧
        left.Bisimilar right t t' := by
  intro samples samples' s s' g' left right
  have hp : samples.Perm samples' := .swap _ _ _
  have hg : Graph.empty.Reachable := ⟨_, .empty⟩
  have hg' : g'.Reachable := ⟨_, Recorded.Built.intern (.array 0) .empty trivial⟩
  obtain ⟨htop, -, hsets⟩ := infer_perm hp .default hg hg'
  have hadds : s.Adds .default .empty "A" ⟨samples, none⟩ := ⟨[], [], rfl, by decide +kernel⟩
  have hadds' : s'.Adds .default g' "A" ⟨samples', none⟩ := ⟨[_], [], rfl, by decide +kernel⟩
  exact ⟨hp, htop, hsets s s' "A" "A" none none (by decide) (by decide) hadds hadds'⟩

end JsonTypes
