import JsonTypes.Proofs.Session.Lifecycle
import JsonTypes.Proofs.Session.Product

/-!
# The documents of a resolver do not show

Where a store answers the same at all times, a resolver that was used already gives the same answers
as a new one: what it keeps is what the store would say again (`Resolver.Mirrors`). So operations
and runs can be repeated, and a session adds the same types again (`cache_transparent`).
-/

namespace JsonTypes

/-! ## Constant stores -/

/-- What the store says about an address does not depend on the fetches before. -/
def SchemaStore.Constant (store : SchemaStore) : Prop :=
  ∀ log log' id, store log id = store log' id

/-- What the store says about an address does not depend on the fetches before. -/
def InputStore.Constant (store : InputStore) : Prop :=
  ∀ log log' id, (store.fetch id log).1 = (store.fetch id log').1

theorem InputStore.constant_of_backing {store : InputStore}
    (h : ∀ backing ∈ store.backing, SchemaStore.Constant backing) : store.Constant := by
  intro log log' id
  unfold fetch
  rcases store.texts.get? id with _ | text
  · rcases hb : store.backing with _ | backing
    · rfl
    · exact h backing hb log log' id
  · rfl

/-! ## Resolvers -/

namespace Resolver

variable {store : InputStore} {r r' : Resolver}

/-- The outcome of a request for a document, by what a store says. -/
def outcomeOf (id : DocumentId) : Except SchemaError (Option Json) → Except SchemaError Json
  | .error e => .error e
  | .ok none => .error (.unresolvableAddress id.text)
  | .ok (some document) => .ok document

/-- The resolver keeps nothing but what the store says about an address. -/
structure Mirrors (store : InputStore) (r : Resolver) : Prop where
  same : r.store = store
  known : ∀ id d, r.known id = some d → (store.fetch id []).1 = .ok (some d)

theorem mirrors_new (store : InputStore) (log : List DocumentId) : Mirrors store (.new store log) :=
  ⟨rfl, nofun⟩

/-- Such a resolver answers like its store, and stays such a one. -/
theorem Mirrors.document (hstore : store.Constant) (h : Mirrors store r) (id : DocumentId) :
    (document id r).1 = outcomeOf id (store.fetch id []).1 ∧ Mirrors store (document id r).2 := by
  obtain ⟨rfl, hknown⟩ := h
  rcases hid : r.known id with _ | d
  · have hfetch := hstore r.log [] id
    rw [document_of_unknown hid, ← hfetch]
    rcases ha : r.store.fetch id r.log with ⟨_ | _ | d, log⟩
    · exact ⟨rfl, rfl, hknown⟩
    · exact ⟨rfl, rfl, hknown⟩
    · refine ⟨rfl, rfl, fun id' d' hd => ?_⟩
      rw [Resolver.known, Entries.get?_put] at hd
      split_ifs at hd with heq
      · cases hd
        rw [← heq, ← hfetch, ha]
      · exact hknown id' d' hd
  · rw [document_of_known hid, hknown id d hid]
    exact ⟨rfl, rfl, hknown⟩

/-- Two resolvers that mirror one store. -/
def Alike (store : InputStore) (r r' : Resolver) : Prop := Mirrors store r ∧ Mirrors store r'

theorem bisimulation_alike (hstore : store.Constant) : Bisimulation (Alike store) := by
  rintro id r r' ⟨h, h'⟩
  obtain ⟨hout, hmirrors⟩ := h.document hstore id
  obtain ⟨hout', hmirrors'⟩ := h'.document hstore id
  exact ⟨hout.trans hout'.symm, hmirrors, hmirrors'⟩

/-- A resolver for a store after operations and runs, whatever their outcomes. -/
inductive Used (store : InputStore) : Resolver → Prop
  | new (log : List DocumentId) : Used store (.new store log)
  | document {r : Resolver} (id : DocumentId) : Used store r → Used store (document id r).2
  | resolve {r : Resolver} (uri : SchemaUri) : Used store r → Used store (resolve uri r).2
  | schemaAt {r : Resolver} (l : Location) : Used store r → Used store (schemaAt l r).2
  | refsForUri {r : Resolver} (uri : SchemaUri) (default : String) : Used store r →
      Used store (refsForUri uri default r).2
  | run {r : Resolver} {σ : Type} [Sink σ] (steps : Nat) (producers : List AttributeProducer)
      (topLevels : List (String × Location)) (sink : σ) : Used store r →
      Used store (Materialize.runInto steps producers topLevels r sink).2.1

theorem Used.mirrors (hstore : store.Constant) (h : Used store r) : Mirrors store r := by
  -- Each operation is taken beside itself: what it leaves is related to what it leaves.
  have hR := bisimulation_alike hstore
  induction h with
  | new log => exact mirrors_new store log
  | document id _ ih => exact (ih.document hstore id).2
  | resolve uri _ ih => exact (hR.resolve uri _ _ ⟨ih, ih⟩).2.1
  | schemaAt l _ ih => exact (hR.schemaAt l _ _ ⟨ih, ih⟩).2.1
  | refsForUri uri default _ ih => exact (hR.refsForUri uri default _ _ ⟨ih, ih⟩).2.1
  | run steps producers topLevels sink _ ih =>
    exact (Materialize.runInto_same producers hR steps topLevels ⟨ih, ih⟩ sink).2.1.1

end Resolver

open Resolver

/-! ## Sources of schemas -/

namespace SchemaSources

variable {s s' t : SchemaSources} {store : InputStore}

theorem Matched.later (hstore : store.Constant) (h : Matched (Alike store) s t) {σ : Type} [Sink σ]
    (steps : Nat) (sink : σ) : Matched (Alike store) s (t.addTypes steps sink).2.1 := by
  rcases h.cases with ⟨-, ht⟩ | ⟨r, r', hs, ht, hr⟩
  · rw [addTypes_of_none ht]
    exact h
  · obtain ⟨-, hleft, -⟩ := Materialize.runInto_same (AttributeProducer.builtIn ++ t.producers)
      (bisimulation_alike hstore) steps t.topLevels ⟨hr.2, hr.2⟩ sink
    rw [addTypes_of_some ht]
    refine ⟨h.producers, h.topLevels, ?_⟩
    rw [hs]
    exact .some ⟨hr.1, hleft.2⟩

/-- What a successful finish leaves mirrors the store of the sources. -/
theorem Reachable.matched_finish (h : s.Reachable) (hstore : s.store.Constant)
    (hfinish : s.finish = (.ok (), s')) : Matched (Alike s.store) s' s' := by
  refine ⟨rfl, rfl, ?_⟩
  rcases of_finish hfinish with ⟨hnone, rfl⟩ | ⟨topLevels, r, hall, rfl⟩
  · rw [current, h.resolver_eq_none hnone]
    exact .none
  · have hnew := mirrors_new s.store s.log
    have hr := (resolveAll_respects (bisimulation_alike hstore) (s.sources.length = 1) s.sources []
      _ _ ⟨hnew, hnew⟩).2
    rw [hall] at hr
    exact .some hr

end SchemaSources

/-! ## Sessions -/

namespace Processor

/-- A processor that was made by calls, over a store that answers the same at all times. -/
def Steady : Processor → Prop
  | samples _ => True
  | schema s => s.Reachable ∧ ∀ backing ∈ s.backing, SchemaStore.Constant backing

/-- Processors that add types alike. -/
inductive Alike : Processor → Processor → Prop
  | samples (s : SampleSets) : Alike (samples s) (samples s)
  | schema {s t : SchemaSources} {store : InputStore} : store.Constant →
      s.Matched (Resolver.Alike store) t → Alike (schema s) (schema t)

variable {σ : Type} [Sink σ] {p q : Processor}

theorem Alike.addTypes (h : p.Alike q) (steps : Nat) (c : InferenceConfig) (sink : σ) :
    (p.addTypes steps c sink).1 = (q.addTypes steps c sink).1 ∧
      (p.addTypes steps c sink).2.2 = (q.addTypes steps c sink).2.2 := by
  cases h with
  | samples s => exact ⟨rfl, rfl⟩
  | schema hstore h =>
    obtain ⟨hout, -, hsink⟩ := h.addTypes (bisimulation_alike hstore) steps sink
    exact ⟨hout, hsink⟩

theorem Alike.later (h : p.Alike q) (steps : Nat) (c : InferenceConfig) (sink : σ) :
    p.Alike (q.addTypes steps c sink).2.1 := by
  cases h with
  | samples s => exact .samples s
  | schema hstore h => exact .schema hstore (h.later hstore steps sink)

theorem Steady.alike_finish (h : p.Steady) (hfinish : p.finish.1 = .ok ()) :
    p.finish.2.Alike p.finish.2 := by
  cases p with
  | samples s => exact .samples s
  | schema s =>
    obtain ⟨hreachable, hconstant⟩ := h
    have hstore : s.store.Constant := InputStore.constant_of_backing hconstant
    have hf : s.finish = (.ok (), s.finish.2) := Prod.ext hfinish rfl
    exact .schema hstore (hreachable.matched_finish hstore hf)

theorem addAllTypes_alike (steps : Nat) (c : InferenceConfig) {ps qs : List Processor}
    (h : List.Forall₂ Alike ps qs) (sink : σ) :
    (addAllTypes steps c ps sink).1 = (addAllTypes steps c qs sink).1 ∧
      (addAllTypes steps c ps sink).2.2 = (addAllTypes steps c qs sink).2.2 := by
  induction h generalizing sink with
  | nil => exact ⟨rfl, rfl⟩
  | @cons p q ps qs hpq _ ih =>
    obtain ⟨hout, hsink⟩ := hpq.addTypes steps c sink
    rw [addAllTypes, addAllTypes]
    rcases hp : p.addTypes steps c sink with ⟨e | _, p', sink₁⟩ <;>
      rcases hq : q.addTypes steps c sink with ⟨e' | _, q', sink₁'⟩ <;>
      rw [hp, hq] at hout hsink <;> cases hout <;> cases hsink
    · exact ⟨rfl, rfl⟩
    · exact ih sink₁

theorem addAllTypes_later (steps : Nat) (c : InferenceConfig) {ps qs : List Processor}
    (h : List.Forall₂ Alike ps qs) (sink : σ) :
    List.Forall₂ Alike ps (addAllTypes steps c qs sink).2.1 := by
  induction h generalizing sink with
  | nil => exact .nil
  | @cons p q ps qs hpq hrest ih =>
    have hlater := hpq.later steps c sink
    rw [addAllTypes]
    rcases hq : q.addTypes steps c sink with ⟨e | _, q', sink₁⟩ <;> rw [hq] at hlater
    · exact .cons hlater hrest
    · exact .cons hlater (ih sink₁)

theorem alike_finishAll : ∀ {ps : List Processor}, (∀ p ∈ ps, p.Steady) →
    (finishAll ps).1 = .ok () → List.Forall₂ Alike (finishAll ps).2 (finishAll ps).2
  | [], _, _ => .nil
  | p :: rest, h, hok => by
    obtain ⟨hp, hrest⟩ := List.forall_mem_cons.1 h
    have halike := hp.alike_finish
    rw [finishAll] at hok ⊢
    rcases hf : p.finish with ⟨e | _, p'⟩ <;> rw [hf] at hok halike
    · cases hok
    · exact .cons (halike rfl) (alike_finishAll hrest hok)

end Processor

theorem ResolvedSession.Becomes.alike {s s' : ResolvedSession} (h : s.Becomes s')
    (hs : List.Forall₂ Processor.Alike s.processors s.processors) :
    List.Forall₂ Processor.Alike s.processors s'.processors := by
  induction h with
  | same => exact hs
  | addTypes steps c sink _ ih => exact Processor.addAllTypes_later steps c ih sink

/-- Whatever a resolver did before, and however that ended, it does the same as a new one for the
same store, if the store answers the same at all times. So a resolved session adds types like at
first, whatever types it added since: two sinks that are equal before are equal afterwards. -/
theorem cache_transparent :
    (∀ (store : InputStore) (r : Resolver) (log : List DocumentId), store.Constant →
      r.Used store → r.Interchangeable (.new store log)) ∧
    ∀ (s : Session) (resolved later : ResolvedSession), (∀ p ∈ s.processors, p.Steady) →
      s.finish.1 = .ok resolved → resolved.Becomes later →
      ∀ (σ : Type) [Sink σ] (steps : Nat) (c : InferenceConfig) (sink : σ),
        (resolved.addTypes steps c sink).1 = (later.addTypes steps c sink).1 ∧
          (resolved.addTypes steps c sink).2.2 = (later.addTypes steps c sink).2.2 := by
  constructor
  · intro store r log hstore hr
    exact (bisimulation_alike hstore).interchangeable ⟨hr.mirrors hstore, mirrors_new store log⟩
  · intro s resolved later hs hfinish hlater σ _ steps c sink
    have halike := Processor.alike_finishAll hs
    rw [Session.finish_eq_ok_iff.1 hfinish] at halike
    exact Processor.addAllTypes_alike steps c (hlater.alike (halike rfl)) sink

/-- Two documents, of which the first one only refers to the second. -/
def library : SchemaStore := fun _ id => .ok <|
  if id.text = "a.json" then some (.object [("$ref", .string "b.json")])
  else if id.text = "b.json" then some (.object [("type", .string "string")])
  else none

/-- A resolver that has found one document and missed another. -/
def served : Resolver :=
  (Resolver.document ⟨"c.json"⟩
    (Resolver.document ⟨"a.json"⟩ (.new ⟨[], some library⟩ [])).2).2

/-- A session with a schema from the library. -/
def reader : Session :=
  ((Session.new ⟨some library, [], fun _ => none⟩).add
    (.schema ⟨"A", some ["a.json"], none, none⟩)).2

/-- The first types take a document that the second ones find, after one that is missing. -/
theorem cache_transparent_library :
    (served.log = [⟨"a.json"⟩, ⟨"c.json"⟩] ∧
      served.Interchangeable (.new ⟨[], some library⟩ [])) ∧
    ∃ resolved, reader.finish.1 = .ok resolved ∧
      let first := resolved.addTypes 8 .default Graph.empty
      let second := first.2.1.addTypes 8 .default Graph.empty
      resolved.processors.map (·.log) = [[⟨"a.json"⟩]] ∧
        first.2.1.processors.map (·.log) = [[⟨"a.json"⟩, ⟨"b.json"⟩]] ∧
        first.1 = .ok () ∧ second.1 = first.1 ∧ second.2.2 = first.2.2 := by
  have hconstant : SchemaStore.Constant library := fun _ _ _ => rfl
  have hstore : InputStore.Constant ⟨[], some library⟩ :=
    InputStore.constant_of_backing fun backing hb => by
      cases hb
      exact hconstant
  have hsteady : ∀ p ∈ reader.processors, p.Steady := fun p hp => by
    have hschema : p = .schema ((SchemaSources.new (some library) []).add
        ⟨"A", some ["a.json"], none, none⟩).2 := List.mem_singleton.1 hp
    rw [hschema]
    refine ⟨.add _ (.new _ _), fun backing hb => ?_⟩
    cases hb
    exact hconstant
  have hfinish : reader.finish.1 = .ok ⟨(Processor.finishAll reader.processors).2⟩ :=
    Session.finish_eq_ok_iff.2 (Prod.ext (by decide +kernel) rfl)
  obtain ⟨hresolver, hsession⟩ := cache_transparent
  refine ⟨⟨by decide +kernel, hresolver _ _ [] hstore (.document _ (.document _ (.new [])))⟩,
    _, hfinish, by decide +kernel, by decide +kernel, by decide +kernel, ?_⟩
  obtain ⟨hout, hsink⟩ := hsession reader _ _ hsteady hfinish
    (.addTypes 8 .default Graph.empty .same) Graph 8 .default .empty
  exact ⟨hout.symm, hsink.symm⟩

end JsonTypes
