import JsonTypes.Proofs.Schema.Interchange
import JsonTypes.Proofs.Session.TopLevels

/-!
# Sources of schemas through their calls

Sources are added, resolved and turned into types by calls, any of which may fail
(`SchemaSources.Reachable`). When types are added, all that counts is what resolved the sources
last, and the fetches since then. So where two sides differ there by nothing that a request for a
document notices, they add types alike (`SchemaSources.Matched.addTypes`).
-/

namespace JsonTypes.SchemaSources

open Resolver JsonTypes.Action

variable {R : Resolver → Resolver → Prop} {s s' t : SchemaSources}

/-- What calls make of new sources, in whatever order they come and whether they fail or not. -/
inductive Reachable : SchemaSources → Prop
  | new (backing : Option SchemaStore) (producers : List AttributeProducer) :
      Reachable (.new backing producers)
  | withProducers {s : SchemaSources} (producers : List AttributeProducer) : Reachable s →
      Reachable { s with producers := s.producers ++ producers }
  | add {s : SchemaSources} (source : SchemaSource) : Reachable s → Reachable (s.add source).2
  | finish {s : SchemaSources} : Reachable s → Reachable s.finish.2
  | addTypes {s : SchemaSources} {σ : Type} [Sink σ] (steps : Nat) (sink : σ) :
      Reachable s → Reachable (s.addTypes steps sink).2.1

theorem resolveAll_respects (hR : Bisimulation R) (alone : Bool) :
    ∀ (entries : List (SchemaUri × SchemaSource)) (topLevels : Entries String Location),
      Respects R (resolveAll alone entries topLevels)
  | [], _ => .pure _
  | (uri, source) :: rest, _ => (hR.refsForUri uri source.name).bind fun _ =>
      resolveAll_respects hR alone rest _

/-- What the next types are made with: what resolved the sources, with all fetches since. -/
def current (s : SchemaSources) : Option Resolver :=
  s.resolver.map fun r => { r with log := s.log }

theorem log_of_current {r : Resolver} (h : s.current = some r) : r.log = s.log := by
  obtain ⟨_, -, rfl⟩ := Option.map_eq_some_iff.1 h
  rfl

theorem addTypes_of_none {σ : Type} [Sink σ] (h : s.current = none) (steps : Nat) (sink : σ) :
    s.addTypes steps sink = (.ok (), s, sink) := by
  rw [addTypes, Option.map_eq_none_iff.1 h]

theorem addTypes_of_some {σ : Type} [Sink σ] {r : Resolver} (h : s.current = some r) (steps : Nat)
    (sink : σ) :
    s.addTypes steps sink =
      let producers := AttributeProducer.builtIn ++ s.producers
      let (outcome, r, sink) := Materialize.runInto steps producers s.topLevels r sink
      (outcome.mapError .schema, { s with resolver := some r, log := r.log }, sink) := by
  obtain ⟨r, hr, rfl⟩ := Option.map_eq_some_iff.1 h
  rw [addTypes, hr]

theorem add_resolver (source : SchemaSource) (s : SchemaSources) :
    (s.add source).2.resolver = s.resolver := by
  unfold add
  split_ifs <;> rfl

theorem sources_of_add_eq_nil {source : SchemaSource} (h : (s.add source).2.sources = []) :
    s.sources = [] := by
  unfold add at h
  split_ifs at h
  · exact h
  · exact h
  · exact (List.append_eq_nil_iff.1 h).1

theorem finish_of_nil (h : s.sources = []) : s.finish = (.ok (), s) := by
  unfold finish
  rw [if_pos (List.isEmpty_iff.2 h)]

theorem finish_sources (s : SchemaSources) : s.finish.2.sources = s.sources := by
  unfold finish
  split_ifs
  · rfl
  · rfl
  · rcases resolveAll (s.sources.length = 1) s.sources [] (.new s.store s.log) with ⟨_ | _, _⟩ <;>
      rfl

theorem addTypes_sources {σ : Type} [Sink σ] (steps : Nat) (sink : σ) (s : SchemaSources) :
    (s.addTypes steps sink).2.1.sources = s.sources := by
  rcases h : s.current with _ | r
  · rw [addTypes_of_none h]
  · rw [addTypes_of_some h]

/-- Nothing resolves what is not there. -/
theorem Reachable.resolver_eq_none (h : s.Reachable) (hs : s.sources = []) : s.resolver = none := by
  induction h with
  | new => rfl
  | withProducers producers _ ih => exact ih hs
  | add source _ ih => exact (add_resolver source _).trans (ih (sources_of_add_eq_nil hs))
  | @finish s _ ih =>
    have hnil := (finish_sources s).symm.trans hs
    rw [finish_of_nil hnil]
    exact ih hnil
  | @addTypes s _ _ steps sink _ ih =>
    have hnone := ih ((addTypes_sources steps sink s).symm.trans hs)
    rw [addTypes_of_none (Option.map_eq_none_iff.2 hnone)]
    exact hnone

/-- Sources that are resolved alike, as far as adding types can tell. -/
structure Matched (R : Resolver → Resolver → Prop) (s t : SchemaSources) : Prop where
  producers : s.producers = t.producers
  topLevels : s.topLevels = t.topLevels
  resolver : Option.Rel R s.current t.current

theorem Matched.cases (h : Matched R s t) :
    (s.current = none ∧ t.current = none) ∨
      ∃ r r', s.current = some r ∧ t.current = some r' ∧ R r r' := by
  have hresolver := h.resolver
  generalize s.current = current at hresolver
  generalize t.current = current' at hresolver
  cases hresolver with
  | none => exact .inl ⟨rfl, rfl⟩
  | some hr => exact .inr ⟨_, _, rfl, rfl, hr⟩

theorem Matched.addTypes (hR : Bisimulation R) (h : Matched R s t) {σ : Type} [Sink σ]
    (steps : Nat) (sink : σ) :
    (s.addTypes steps sink).1 = (t.addTypes steps sink).1 ∧
      Matched R (s.addTypes steps sink).2.1 (t.addTypes steps sink).2.1 ∧
      (s.addTypes steps sink).2.2 = (t.addTypes steps sink).2.2 := by
  rcases h.cases with ⟨hs, ht⟩ | ⟨r, r', hs, ht, hr⟩
  · rw [addTypes_of_none hs, addTypes_of_none ht]
    exact ⟨rfl, h, rfl⟩
  · obtain ⟨hout, hleft, hsink⟩ := Materialize.runInto_same
      (AttributeProducer.builtIn ++ s.producers) hR steps s.topLevels hr sink
    rw [addTypes_of_some hs, addTypes_of_some ht, ← h.producers, ← h.topLevels]
    exact ⟨congrArg (Except.mapError SessionError.schema) hout, ⟨rfl, rfl, .some hleft⟩, hsink⟩

end JsonTypes.SchemaSources
