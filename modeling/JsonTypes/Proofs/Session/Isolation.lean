import JsonTypes.Proofs.Schema.Attachments
import JsonTypes.Proofs.Session.Descriptions
import JsonTypes.Session.Basic

/-!
# Attributes stay with their types

A finished session adds its types to a sink by calls, of which there may be many and some may fail.
Every call keeps the graph orderly and spares what earlier calls left (`addTypesEach_spares`). So
what a call attaches to a type stays all that the type carries, and nothing is ever attached to a
type that equal nodes share (`addTypes_isolated`).
-/

namespace JsonTypes

open Recorded Materialize

variable {c : InferenceConfig} {steps : Nat}

/-! ## Calls of a session -/

namespace SchemaSources

/-- How the run over the top levels ends that adds their types to a sink. -/
def conversion {σ : Type} [Sink σ] (steps : Nat) (s : SchemaSources) (r : Resolver) (sink : σ) :
    State σ :=
  (convertTopLevels (AttributeProducer.builtIn ++ s.producers) steps s.topLevels
    ⟨{ r with log := s.log }, sink, []⟩).2

theorem sink_addTypes {σ : Type} [Sink σ] (steps : Nat) {s : SchemaSources} {r : Resolver}
    (h : s.resolver = some r) (sink : σ) :
    (s.addTypes steps sink).2.2 = (s.conversion steps r sink).sink := by
  unfold addTypes
  rw [h]
  rfl

theorem conversion_advances (steps : Nat) (s : SchemaSources) (r : Resolver) {g : Recorded} (hg : g.Orderly) :
    Advances (AttributeProducer.builtIn ++ s.producers) ⟨{ r with log := s.log }, g, []⟩
      (s.conversion steps r g) :=
  convertTopLevels_advances _ steps s.topLevels _ ⟨hg, nofun⟩

theorem addTypes_records (s : SchemaSources) (g : Recorded) :
    s.addTypes steps g.graph =
      ((s.addTypes steps g).1, (s.addTypes steps g).2.1, (s.addTypes steps g).2.2.graph) := by
  unfold addTypes
  rcases s.resolver with _ | r
  · rfl
  · have hrun := convertTopLevels_records (AttributeProducer.builtIn ++ s.producers) steps s.topLevels
      ⟨{ r with log := s.log }, g, []⟩
    unfold runInto
    change convertTopLevels _ steps s.topLevels ⟨{ r with log := s.log }, g.graph, []⟩ = _ at hrun
    simp only [hrun]
    rfl

end SchemaSources

namespace Processor

theorem addTypes_spares (steps : Nat) (c : InferenceConfig) (p : Processor) {r : Recorded} (hr : r.Orderly) :
    (p.addTypes steps c r).2.2.Orderly ∧ r.Spares (p.addTypes steps c r).2.2 := by
  cases p with
  | samples s =>
    obtain ⟨done, rest, types, -, -, h⟩ := SampleSets.addTypesOf_publishes c s.sets hr
    exact ⟨h.orderly, h.spares⟩
  | schema s =>
    change (s.addTypes steps r).2.2.Orderly ∧ r.Spares (s.addTypes steps r).2.2
    rcases hres : s.resolver with _ | resolver
    · unfold SchemaSources.addTypes
      rw [hres]
      exact ⟨hr, .refl r⟩
    · rw [SchemaSources.sink_addTypes steps hres]
      have h := s.conversion_advances steps resolver hr
      exact ⟨h.orderly.sink, h.spares⟩

theorem addTypes_records (p : Processor) (r : Recorded) :
    p.addTypes steps c r.graph =
      ((p.addTypes steps c r).1, (p.addTypes steps c r).2.1, (p.addTypes steps c r).2.2.graph) := by
  cases p with
  | samples s =>
    have hsamples : ∀ {σ : Type} [Sink σ] (sink : σ), (samples s).addTypes steps c sink =
        ((SampleSets.addTypesOf c s.sets sink).1, samples s, (SampleSets.addTypesOf c s.sets sink).2) :=
      fun _ => rfl
    rw [hsamples, hsamples, SampleSets.addTypesOf_records]
  | schema s => simp only [addTypes, s.addTypes_records r]

theorem addAllTypes_spares : ∀ (ps : List Processor) {r : Recorded}, r.Orderly →
    (addAllTypes steps c ps r).2.2.Orderly ∧ r.Spares (addAllTypes steps c ps r).2.2
  | [], r, hr => ⟨hr, .refl r⟩
  | p :: rest, r, hr => by
    obtain ⟨hp, hspares⟩ := p.addTypes_spares steps c hr
    rw [addAllTypes]
    rcases h : p.addTypes steps c r with ⟨_ | _, p', r'⟩ <;> rw [h] at hp hspares
    · exact ⟨hp, hspares⟩
    · obtain ⟨hrest, hspares'⟩ := addAllTypes_spares rest hp
      exact ⟨hrest, hspares.trans hr hspares'⟩

theorem addAllTypes_records : ∀ (ps : List Processor) (r : Recorded),
    addAllTypes steps c ps r.graph = ((addAllTypes steps c ps r).1, (addAllTypes steps c ps r).2.1,
      (addAllTypes steps c ps r).2.2.graph)
  | [], _ => rfl
  | p :: rest, r => by
    rw [addAllTypes, addAllTypes, p.addTypes_records]
    rcases p.addTypes steps c r with ⟨_ | _, p', r'⟩
    · rfl
    · simp only [addAllTypes_records rest r']

theorem addAllTypes_split (p : Processor) (after : List Processor) :
    ∀ (before : List Processor) {r entry : Recorded} {done : List Processor}, r.Orderly →
      addAllTypes steps c before r = (.ok (), done, entry) →
        entry.Orderly ∧ r.Spares entry ∧ (p.addTypes steps c entry).2.2.Spares
          (addAllTypes steps c (before ++ p :: after) r).2.2
  | [], r, _, _, hr, h => by
    cases h
    refine ⟨hr, .refl r, ?_⟩
    obtain ⟨hp, -⟩ := p.addTypes_spares steps c hr
    rw [List.nil_append, addAllTypes]
    rcases h : p.addTypes steps c r with ⟨_ | _, p', r'⟩ <;> rw [h] at hp
    · exact .refl r'
    · exact (addAllTypes_spares after hp).2
  | q :: before, r, _, _, hr, h => by
    obtain ⟨hq, hspares⟩ := q.addTypes_spares steps c hr
    rw [addAllTypes] at h
    rw [List.cons_append, addAllTypes]
    rcases hstep : q.addTypes steps c r with ⟨_ | _, q', r'⟩ <;> rw [hstep] at hq hspares h
    · cases h
    · rcases hb : addAllTypes steps c before r' with ⟨outcome, done', entry'⟩
      simp only [hb] at h
      cases h
      obtain ⟨hentry, hspares', hexit⟩ := addAllTypes_split p after before hq hb
      exact ⟨hentry, hspares.trans hr hspares', hexit⟩

end Processor

namespace ResolvedSession

/-- Calls in turn, each with its number of steps and its settings. -/
def addTypesEach {σ : Type} [Sink σ] :
    List (Nat × InferenceConfig) → ResolvedSession → σ → ResolvedSession × σ
  | [], s, sink => (s, sink)
  | (steps, c) :: rest, s, sink =>
    let (_, s, sink) := s.addTypes steps c sink
    addTypesEach rest s sink

/-- In a call the turn comes to a processor, which finds the sink like this. -/
def Reaches {σ : Type} [Sink σ] (steps : Nat) (c : InferenceConfig) (s : ResolvedSession)
    (sink : σ) (p : Processor) (entry : σ) : Prop :=
  ∃ before after done, s.processors = before ++ p :: after ∧
    Processor.addAllTypes steps c before sink = (.ok (), done, entry)

variable {s : ResolvedSession} {r entry : Recorded} {p : Processor}

theorem addTypes_spares (steps : Nat) (c : InferenceConfig) (s : ResolvedSession) (hr : r.Orderly) :
    (s.addTypes steps c r).2.2.Orderly ∧ r.Spares (s.addTypes steps c r).2.2 :=
  Processor.addAllTypes_spares s.processors hr

theorem addTypesEach_spares : ∀ (calls : List (Nat × InferenceConfig)) (s : ResolvedSession)
    {r : Recorded}, r.Orderly →
      (addTypesEach calls s r).2.Orderly ∧ r.Spares (addTypesEach calls s r).2
  | [], _, r, hr => ⟨hr, .refl r⟩
  | (steps, c) :: rest, s, _, hr =>
    have ⟨hs, hspares⟩ := s.addTypes_spares steps c hr
    have ⟨hrest, hspares'⟩ := addTypesEach_spares rest _ hs
    ⟨hrest, hspares.trans hr hspares'⟩

theorem addTypes_records (s : ResolvedSession) (r : Recorded) :
    s.addTypes steps c r.graph =
      ((s.addTypes steps c r).1, (s.addTypes steps c r).2.1, (s.addTypes steps c r).2.2.graph) := by
  simp only [addTypes, Processor.addAllTypes_records]

theorem addTypesEach_records : ∀ (calls : List (Nat × InferenceConfig)) (s : ResolvedSession)
    (r : Recorded), addTypesEach calls s r.graph =
      ((addTypesEach calls s r).1, (addTypesEach calls s r).2.graph)
  | [], _, _ => rfl
  | (steps, c) :: rest, s, r => by
    simp only [addTypesEach, addTypes_records]
    exact addTypesEach_records rest _ _

theorem addTypesEach_append {σ : Type} [Sink σ] (later : List (Nat × InferenceConfig)) :
    ∀ (earlier : List (Nat × InferenceConfig)) (s : ResolvedSession) (sink : σ),
      addTypesEach (earlier ++ later) s sink =
        addTypesEach later (addTypesEach earlier s sink).1 (addTypesEach earlier s sink).2
  | [], _, _ => rfl
  | (_, _) :: rest, _, _ => addTypesEach_append later rest _ _

/-- What a processor leaves is spared to the end of the call. -/
theorem Reaches.spares (h : s.Reaches steps c r p entry) (hr : r.Orderly) :
    entry.Orderly ∧ r.Spares entry ∧
      (p.addTypes steps c entry).2.2.Spares (s.addTypes steps c r).2.2 := by
  obtain ⟨before, after, done, hs, hdone⟩ := h
  change _ ∧ _ ∧ Spares _ (Processor.addAllTypes steps c s.processors r).2.2
  rw [hs]
  exact Processor.addAllTypes_split p after before hr hdone

end ResolvedSession

/-! ## What types carry -/

/-- The recorded graph is how the later one was at some moment. -/
def Recorded.Precedes (r r' : Recorded) : Prop :=
  r.Built (fun _ _ => True) ∧ ∃ calls, r'.calls = r.calls ++ calls

/-- The top level of a set carries its description and nothing else. If it has one, or if all top
levels are fixed, no other top level has this type, and no node points at it. -/
def SampleSets.Isolated (c : InferenceConfig) (r : Recorded) (entry : String × SampleSet)
    (t : TypeRef) : Prop :=
  r.graph.attributesOf? t = entry.2.description.map .ofDescription ∧
    (entry.2.description.isSome ∨ c.fixedTopLevels = true →
      r.namesOf t = [entry.1] ∧ ∀ u n, r.graph.node? u = some n → t ∉ n.children)

/-- The slot of a location carries nothing before it is filled, and once it is, what the producers
give for the schema of the location, merged in their order. -/
def SchemaSources.Isolated (producers : List AttributeProducer) (docs : Documents) (r : Recorded)
    (l : Location) (t : TypeRef) : Prop :=
  (∀ r₀ : Recorded, r₀.Precedes r → (∀ n, .fill t n ∉ r₀.calls) → r₀.graph.attributesOf? t = none) ∧
    ∀ n, .fill t n ∈ r.calls → ∃ schema, docs.schemaAt? l = some schema ∧
      r.graph.attributesOf? t = Attributes.carried (attributesFrom producers schema l)

section Isolated

variable {r r' : Recorded} {t : TypeRef}

theorem SampleSets.Settled.isolated {entry : String × SampleSet} (h : Settled c r entry t)
    (hr : r.Orderly) : Isolated c r entry t := by
  refine ⟨h.carries hr, fun hc => ?_⟩
  have hfresh : isFresh c entry.2 = true := by
    unfold isFresh
    rcases hc with hc | hc <;> simp [hc]
  exact ⟨(h.fresh hfresh).1, h.not_child hr hfresh⟩

theorem Recorded.mem_history_of_fill {n : Node} (h : .fill t n ∈ r.calls) :
    .fill t n ∈ r.history t :=
  List.mem_filter.2 ⟨h, decide_eq_true rfl⟩

/-- Before its slot is filled, nothing was attached to a type. -/
theorem Materialize.Fate.none_before {producers : List AttributeProducer} {docs : Documents}
    {l : Location} (h : Fate producers docs r l t) {r₀ : Recorded} (h₀ : r₀.Precedes r)
    (hfill : ∀ n, .fill t n ∉ r₀.calls) : r₀.graph.attributesOf? t = none := by
  obtain ⟨hb, calls, hcalls⟩ := h₀
  have hnot : ∀ n, .fill t n ∉ r₀.history t := fun n hn => hfill n (List.mem_of_mem_filter hn)
  have hhistory := history_append hcalls t
  rw [hb.carried, attached]
  generalize r₀.history t = before at hnot hhistory ⊢
  have hopen : before = [] ∨ before = [.reserve t] := by
    rcases before with _ | ⟨first, _ | ⟨second, rest⟩⟩
    · exact .inl rfl
    · rcases h with h | ⟨-, h⟩ <;> rw [h] at hhistory <;>
        exact .inr (congrArg (fun calls => [calls]) (List.cons.inj hhistory).1.symm)
    · rcases h with h | ⟨-, h⟩ <;> rw [h] at hhistory
      · cases (List.cons.inj hhistory).2
      · cases (List.cons.inj (List.cons.inj hhistory).2).1
        exact absurd (List.mem_cons_of_mem _ List.mem_cons_self) (hnot _)
  rcases hopen with rfl | rfl <;> rfl

theorem Materialize.Fate.isolated {producers : List AttributeProducer} {docs : Documents}
    {l : Location} (h : Fate producers docs r l t) (hr : r.Orderly) :
    SchemaSources.Isolated producers docs r l t := by
  refine ⟨fun r₀ => h.none_before, fun n hn => ?_⟩
  have hmem := mem_history_of_fill hn
  rcases h with h | @⟨schema, m, hs, h⟩
  · rw [h] at hmem
    cases List.mem_singleton.1 hmem
  · refine ⟨schema, hs, hr.carries [.reserve t, .fill t m] _ h fun call hc => ?_⟩
    rcases List.mem_cons.1 hc with rfl | hc
    · rfl
    · cases List.mem_singleton.1 hc
      rfl

/-- Calls about a type that was there before only intern it again. -/
theorem Recorded.Spares.size_le_of_call (h : r.Spares r') {calls : List SinkCall} {call : SinkCall}
    (hcalls : r'.calls = r.calls ++ calls) (hc : call ∈ calls) (hs : subject? call = some t)
    (hi : ∀ n, call ≠ .intern n t) : r.graph.size ≤ t := by
  have hmem : call ∈ calls.filter fun call => subject? call = some t :=
    List.mem_filter.2 ⟨hc, decide_eq_true hs⟩
  have hhistory := history_append hcalls t
  by_contra hlt
  rcases h.history t (Nat.not_le.1 hlt) with he | ⟨-, hshared⟩
  · rw [List.append_right_eq_self.1 (hhistory.symm.trans he)] at hmem
    cases hmem
  · obtain ⟨n, hn⟩ := hshared.2 call (hhistory ▸ List.mem_append_right _ hmem)
    exact hi n hn

/-- What calls attach, they attach to types that they made themselves. -/
theorem Recorded.Spares.attached_to_new (hr : r.Orderly) (hr' : r'.Orderly) (h : r.Spares r') :
    ∃ calls, r'.calls = r.calls ++ calls ∧ ∀ t a, .addAttributes t a ∈ calls →
      (∃ n, .addFresh n t ∈ calls) ∨ .reserve t ∈ calls := by
  obtain ⟨calls, hcalls⟩ := h.calls
  refine ⟨calls, hcalls, fun t a ha => ?_⟩
  have hge := h.size_le_of_call hcalls ha rfl nofun
  have hhistory := history_append hcalls t
  rw [hr.history_nil t hge, List.nil_append] at hhistory
  have hcall : .addAttributes t a ∈ r'.calls := hcalls ▸ List.mem_append_right _ ha
  have hof : ∀ {call}, call ∈ r'.history t → call ∈ calls := fun hc =>
    List.mem_of_mem_filter (hhistory ▸ hc)
  rcases (hr'.not_shared_of_attributes hcall).1 with ⟨n, hn⟩ | hn
  · exact .inl ⟨n, hof hn⟩
  · exact .inr (hof hn)

end Isolated

/-! ## Calls -/

/-- Any number of calls of a session populate a graph from the empty one, each of which may fail.
What one of them attaches, it attaches to types that it added fresh or reserved, never to one that
was interned at any time. In the end, each top level that it added for a set of samples carries the
description of the set and nothing else, apart from the other top levels and from all nodes if it
has one; with fixed top levels, no two have the same type. Each slot that it reserved is that of a
location, which carries nothing before it is filled, and then what the producers give for the
schema there. -/
theorem addTypes_isolated (s : ResolvedSession) (earlier later : List (Nat × InferenceConfig))
    (steps : Nat) (c : InferenceConfig) :
    let before := s.addTypesEach earlier (⟨.empty, []⟩ : Recorded)
    let after := (before.1.addTypes steps c before.2).2
    let final := (after.1.addTypesEach later after.2).2
    final.graph = (s.addTypesEach (earlier ++ (steps, c) :: later) Graph.empty).2 ∧
    (∃ calls, after.2.calls = before.2.calls ++ calls ∧ ∀ t a, .addAttributes t a ∈ calls →
      ((∃ n, .addFresh n t ∈ calls) ∨ .reserve t ∈ calls) ∧ ∀ n, .intern n t ∉ final.calls) ∧
    (∀ sets entry, before.1.Reaches steps c before.2 (.samples sets) entry →
      ∃ done rest types, sets.sets = done ++ rest ∧
        ((sets.addTypes c entry).1 = .ok () → rest = []) ∧
        (sets.addTypes c entry).2.tops = entry.tops ++ (Entries.keys done).zip types ∧
        List.Forall₂ (SampleSets.Isolated c final) done types ∧
        (c.fixedTopLevels = true → types.Nodup)) ∧
    ∀ sources entry r, before.1.Reaches steps c before.2 (.schema sources) entry →
      sources.resolver = some r →
      (∃ calls, (sources.addTypes steps entry).2.2.calls = entry.calls ++ calls ∧
        ∀ t, .reserve t ∈ calls → ∃ l, (sources.conversion steps r entry).converted.get? l = some t) ∧
      ∀ l t, (sources.conversion steps r entry).converted.get? l = some t →
        SchemaSources.Isolated (AttributeProducer.builtIn ++ sources.producers)
          (sources.conversion steps r entry).resolver.known final l t := by
  intro before after final
  obtain ⟨hbefore, -⟩ := s.addTypesEach_spares earlier orderly_empty
  obtain ⟨hafter, hspares⟩ := before.1.addTypes_spares steps c hbefore
  obtain ⟨hfinal, hlater⟩ := after.1.addTypesEach_spares later hafter
  refine ⟨?_, ?_, fun sets entry hreach => ?_, fun sources entry r hreach hr => ?_⟩
  · have hall : s.addTypesEach (earlier ++ (steps, c) :: later) (⟨.empty, []⟩ : Recorded) =
        after.1.addTypesEach later after.2 := ResolvedSession.addTypesEach_append _ earlier s _
    have hgraph := s.addTypesEach_records (earlier ++ (steps, c) :: later) ⟨.empty, []⟩
    rw [hall] at hgraph
    exact (congrArg Prod.snd hgraph).symm
  · obtain ⟨calls, hcalls, hnew⟩ := hspares.attached_to_new hbefore hafter
    obtain ⟨more, hmore⟩ := hlater.calls
    refine ⟨calls, hcalls, fun t a ha => ⟨hnew t a ha, ?_⟩⟩
    have hmem : .addAttributes t a ∈ final.calls :=
      hmore ▸ List.mem_append_left _ (hcalls ▸ List.mem_append_right _ ha)
    exact (hfinal.not_shared_of_attributes hmem).2
  · obtain ⟨hentry, -, hexit⟩ := hreach.spares hbefore
    obtain ⟨done, rest, types, hsets, hok, h⟩ :=
      SampleSets.addTypesOf_publishes c sets.sets hentry
    have hspared := hexit.trans h.orderly hlater
    refine ⟨done, rest, types, hsets, hok, h.tops, h.settled.imp fun e t ht => ?_,
      fun hfixed => (h.nodup hfixed).1⟩
    exact (ht.spared h.orderly hspared).isolated hfinal
  · obtain ⟨hentry, -, hexit⟩ := hreach.spares hbefore
    have h := sources.conversion_advances steps r hentry
    have hsink := SchemaSources.sink_addTypes steps hr entry
    have hspared : (sources.conversion steps r entry).sink.Spares final :=
      (hsink ▸ hexit).trans h.orderly.sink hlater
    refine ⟨?_, fun l t ht => ?_⟩
    · obtain ⟨calls, hcalls⟩ := h.spares.calls
      refine ⟨calls, hsink ▸ hcalls, fun t ht => h.reserved t ?_ ?_⟩
      · exact h.spares.size_le_of_call hcalls ht rfl nofun
      · exact List.mem_filter.2 ⟨hcalls ▸ List.mem_append_right _ ht, decide_eq_true rfl⟩
    · obtain ⟨-, hfate⟩ := (h.fate l t ht).resolve_left nofun
      have hlt := (h.orderly.usable l t ht).1
      have hnot : ¬(sources.conversion steps r entry).sink.Shared t := fun hs =>
        hs.not_reserved hfate.mem_history
      exact (hfate.congr (fun _ _ h => h) (hspared.history_eq hlt hnot)).isolated hfinal

/-- Two sets with the same samples, of which one has a description. -/
def twins : SampleSets :=
  ⟨[("A", ⟨[.object [("x", .int 1)]], none⟩), ("B", ⟨[.object [("x", .int 1)]], some "second"⟩)]⟩

/-- A schema that has a type of the same form. -/
def sibling : SchemaSources :=
  let document := .object [("description", .string "third"), ("type", .string "object"),
    ("properties", .object [("x", .object [("type", .string "integer")])])]
  ((SchemaSources.new (some fun _ _ => .ok (some document)) []).add
    ⟨"C", some ["c.json"], none, none⟩).2.finish.2

/-- The session before its calls, and the graph when the turn comes to the schema. -/
def family : ResolvedSession := ⟨[.samples twins, .schema sibling]⟩

def afterTwins : Except SessionError Unit × List Processor × Recorded :=
  Processor.addAllTypes 8 .default [.samples twins] ⟨.empty, []⟩

/-- The description of the one set is with its top level only, and what the slot of the schema
carries is said by its producers, also after another call. -/
theorem addTypes_isolated_family :
    let after := (family.addTypes 8 .default (⟨.empty, []⟩ : Recorded)).2
    let final := (after.1.addTypesEach [(8, .withFixedTopLevels .default true)] after.2).2
    (∃ t, ("B", t) ∈ (twins.addTypes .default (⟨.empty, []⟩ : Recorded)).2.tops ∧
      final.graph.attributesOf? t = some (.ofDescription "second") ∧ final.namesOf t = ["B"] ∧
      ∀ u n, final.graph.node? u = some n → t ∉ n.children) ∧
    ∃ r t, sibling.resolver = some r ∧
      (sibling.conversion 8 r afterTwins.2.2).converted.get? (.root ⟨"c.json"⟩) = some t ∧
      SchemaSources.Isolated (AttributeProducer.builtIn ++ sibling.producers)
        (sibling.conversion 8 r afterTwins.2.2).resolver.known final (.root ⟨"c.json"⟩) t := by
  have hall : (twins.addTypes .default (⟨.empty, []⟩ : Recorded)).1 = .ok () := by decide +kernel
  have hreach : family.Reaches 8 .default (⟨.empty, []⟩ : Recorded) (.samples twins) ⟨.empty, []⟩ :=
    ⟨[], [.schema sibling], [], rfl, rfl⟩
  have hmiddle : afterTwins = (.ok (), afterTwins.2.1, afterTwins.2.2) :=
    Prod.ext (show afterTwins.1 = .ok () by decide +kernel) rfl
  have hreach' : family.Reaches 8 .default (⟨.empty, []⟩ : Recorded) (.schema sibling)
      afterTwins.2.2 := ⟨[.samples twins], [], _, rfl, hmiddle⟩
  have hslot : (sibling.resolver.any fun r => ((sibling.conversion 8 r afterTwins.2.2).converted.get?
      (.root ⟨"c.json"⟩)).isSome) = true := by decide +kernel
  obtain ⟨r, hr, hslot⟩ := (Option.any_eq_true _ _).1 hslot
  obtain ⟨t, ht⟩ := Option.isSome_iff_exists.1 hslot
  have h := addTypes_isolated family [] [(8, .withFixedTopLevels .default true)] 8 .default
  simp only [ResolvedSession.addTypesEach] at h ⊢
  obtain ⟨-, -, hsamples, hschema⟩ := h
  refine ⟨?_, r, t, hr, ht, (hschema sibling _ r hreach' hr).2 _ t ht⟩
  obtain ⟨done, rest, types, hsets, hok, htops, hisolated, -⟩ := hsamples twins _ hreach
  have hrest := hok hall
  subst hrest
  rw [List.append_nil] at hsets
  subst hsets
  obtain ⟨t, types, -, hmore, rfl⟩ := List.forall₂_cons_left_iff.1 hisolated
  obtain ⟨u, types, hu, -, rfl⟩ := List.forall₂_cons_left_iff.1 hmore
  obtain ⟨hcarried, hapart⟩ := hu
  refine ⟨u, ?_, hcarried, hapart (.inl rfl)⟩
  rw [htops]
  exact List.mem_append_right _ (List.mem_cons_of_mem _ List.mem_cons_self)

end JsonTypes
