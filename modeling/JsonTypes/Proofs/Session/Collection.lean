import Mathlib.Tactic.Common
import JsonTypes.Proofs.Session.Refusal

/-!
# What sources of schemas leave

Whether a schema is taken depends on its source alone (`SchemaSource.isComplete`), and a source that
is refused leaves nothing. So the state after any sources is told by those that were taken
(`holds_addEach`): the first of them has number one, and each is recorded under its addresses and
writes its text at each of their documents.
-/

namespace JsonTypes

/-- Whether a source has a name, and addresses or a text. -/
def SchemaSource.isComplete (source : SchemaSource) : Bool :=
  !source.name.isEmpty && !((source.uris.getD []).isEmpty && source.schema.isNone)

namespace SchemaSources

/-- Adds sources in turn, whether they are taken or refused. -/
def addEach (sources : List SchemaSource) (s : SchemaSources) : SchemaSources :=
  sources.foldl (fun s source => (s.add source).2) s

/-- Sources with their numbers. -/
def numbered (sources : List SchemaSource) : List (SchemaSource × Nat) := sources.zipIdx 1

/-- The addresses of a source that has a number. -/
def addressesOf (e : SchemaSource × Nat) : List SchemaUri := urisOf e.1 (.synthetic e.2)

/-- The texts that a source writes, with their documents. -/
def textsOf (e : SchemaSource × Nat) : List (DocumentId × String) :=
  match e.1.schema with
  | none => []
  | some text => (addressesOf e).map fun uri => (uri.document, text)

/-- The state says of these sources, which were all taken, what was recorded of them. -/
structure Holds (taken : List SchemaSource) (s : SchemaSources) : Prop where
  count : s.count = taken.length
  sources : s.sources = (numbered taken).flatMap fun e => (addressesOf e).map fun uri => (uri, e.1)
  texts : s.texts = Entries.ofList ((numbered taken).flatMap textsOf)
  topLevels : s.topLevels = []

variable {taken : List SchemaSource} {source : SchemaSource} {s : SchemaSources}

theorem add_of_incomplete (h : source.isComplete = false) :
    ∃ e, s.add source = (.error e, s) := by
  unfold add
  split_ifs with hname hnothing
  · exact ⟨_, rfl⟩
  · exact ⟨_, rfl⟩
  · refine absurd ?_ hnothing
    simpa [SchemaSource.isComplete, hname] using h

theorem add_of_complete (h : source.isComplete = true) :
    s.add source = (.ok (), { s with
      needsInference := s.needsInference || source.isConverted ≠ some true
      count := s.count + 1
      sources := s.sources ++ (addressesOf (source, s.count + 1)).map fun uri => (uri, source)
      texts := putText (addressesOf (source, s.count + 1)) s.texts source.schema }) := by
  simp only [SchemaSource.isComplete, Bool.and_eq_true, Bool.not_eq_true', Bool.and_eq_false_iff]
    at h
  unfold add
  rw [if_neg (by simp [h.1]), if_neg (by rcases h.2 with h | h <;> simp [h])]
  rfl

theorem putText_eq (e : SchemaSource × Nat) (texts : Entries DocumentId String) :
    putText (addressesOf e) texts e.1.schema =
      (textsOf e).foldl (fun ts p => ts.put p.1 p.2) texts := by
  unfold putText textsOf
  rcases e.1.schema with _ | text <;> simp only
  · rfl
  · rw [List.foldl_map]

theorem numbered_concat (taken : List SchemaSource) (source : SchemaSource) :
    numbered (taken ++ [source]) = numbered taken ++ [(source, taken.length + 1)] := by
  unfold numbered
  rw [List.zipIdx_append, Nat.add_comm]
  rfl

theorem Holds.add (h : Holds taken s) (hsource : source.isComplete = true) :
    Holds (taken ++ [source]) (s.add source).2 := by
  rw [add_of_complete hsource, h.count]
  refine ⟨by simp, ?_, ?_, h.topLevels⟩
  · simp only [numbered_concat, List.flatMap_append, List.flatMap_singleton, h.sources]
  · rw [putText_eq (source, taken.length + 1), numbered_concat, List.flatMap_append,
      List.flatMap_singleton, Entries.ofList, List.foldl_append, h.texts]
    rfl

theorem holds_new (backing : Option SchemaStore) (producers : List AttributeProducer) :
    Holds [] (.new backing producers) :=
  ⟨rfl, rfl, rfl, rfl⟩

theorem Holds.addEach : ∀ (sources : List SchemaSource) {taken : List SchemaSource}
    {s : SchemaSources}, Holds taken s →
      Holds (taken ++ sources.filter (·.isComplete)) (SchemaSources.addEach sources s)
  | [], taken, s, h => by simpa [SchemaSources.addEach] using h
  | source :: rest, taken, s, h => by
    rcases hsource : source.isComplete
    · obtain ⟨e, he⟩ := add_of_incomplete (s := s) hsource
      rw [SchemaSources.addEach, List.foldl_cons, he, List.filter_cons_of_neg (by simp [hsource])]
      exact Holds.addEach rest h
    · have hrest := Holds.addEach rest (h.add hsource)
      rw [List.append_assoc, List.singleton_append] at hrest
      rw [SchemaSources.addEach, List.foldl_cons, List.filter_cons_of_pos hsource]
      exact hrest

/-- After any sources, those that were taken are recorded, and nothing else is. -/
theorem holds_addEach (backing : Option SchemaStore) (producers : List AttributeProducer)
    (sources : List SchemaSource) :
    Holds (sources.filter (·.isComplete)) (addEach sources (.new backing producers)) :=
  (holds_new backing producers).addEach sources

end SchemaSources

end JsonTypes
