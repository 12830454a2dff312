import JsonTypes.Proofs.Schema.Publication
import JsonTypes.Proofs.Session.Lifecycle
import JsonTypes.Proofs.Session.Product
import JsonTypes.Proofs.Session.SampleLog

/-!
# The order of top levels

A resolved session stands for a list of entries: processor by processor, the sets of samples and
the named locations of schemas (`ResolvedSession.entries`). Adding types gives one entry after the
other a type, and writes it under the entry's name (`Gains`). What one processor adds goes in front
of what the next one adds (`Gains.append`), and the first entry that fails ends the run
(`Progress`). So the top levels are those of the entries before it, folded in this order
(`topLevels_addTypes`).

The entries themselves come in the order in which the sources brought their names
(`Processor.Resolves`).
-/

namespace JsonTypes

open Materialize

/-! ## Entries -/

/-- What becomes a top level: a set of samples, or a location in a schema, by the documents that
are known. -/
inductive Entry where
  | samples (name : String) (set : SampleSet)
  | schema (name : String) (location : Location) (docs : Documents)

namespace Entry

def name : Entry → String
  | samples name _ => name
  | schema name _ _ => name

/-- The type came of the entry, and the graph has grown from there. -/
def Typed (c : InferenceConfig) (g : Graph) : Entry → TypeRef → Prop
  | samples _ set, t => Inferred c g set.samples t
  | schema _ l docs, t => ∃ s : State Graph, Sound (fun _ => False) s ∧
      s.resolver.known.Extends docs ∧ s.sink.Extends g ∧ s.answers.type l t

theorem Typed.mono {c : InferenceConfig} {g g' : Graph} {entry : Entry} {t : TypeRef}
    (h : entry.Typed c g t) (hg : g.Extends g') : entry.Typed c g' t := by
  cases entry with
  | samples name set => exact Inferred.mono h hg
  | schema name l docs =>
    obtain ⟨s, hs, hdocs, hsink, ht⟩ := h
    exact ⟨s, hs, hdocs, hsink.trans hg, ht⟩

end Entry

/-- The documents that resolved the sources. -/
def SchemaSources.known (s : SchemaSources) : Documents := fun id =>
  s.resolver.bind fun r => r.known id

namespace Processor

def entries : Processor → List Entry
  | samples s => s.sets.map fun e => .samples e.1 e.2
  | schema s => s.topLevels.map fun e => .schema e.1 e.2 s.known

/-- The processor with its first entries only. -/
def upTo (n : Nat) : Processor → Processor
  | samples s => samples ⟨s.sets.take n⟩
  | schema s => schema { s with topLevels := s.topLevels.take n }

/-- Processors with the first entries of all. -/
def upToAll : Nat → List Processor → List Processor
  | _, [] => []
  | n, p :: rest => p.upTo n :: upToAll (n - p.entries.length) rest

theorem upTo_of_le {n : Nat} {p : Processor} (h : p.entries.length ≤ n) : p.upTo n = p := by
  cases p with
  | samples s =>
    have hlen : s.sets.length ≤ n := by simpa [entries] using h
    rw [upTo, List.take_of_length_le hlen]
  | schema s =>
    have hlen : s.topLevels.length ≤ n := by simpa [entries] using h
    rw [upTo, List.take_of_length_le hlen]

end Processor

namespace ResolvedSession

def entries (s : ResolvedSession) : List Entry := s.processors.flatMap Processor.entries

/-- The session with its first entries only. -/
def upTo (n : Nat) (s : ResolvedSession) : ResolvedSession := ⟨Processor.upToAll n s.processors⟩

end ResolvedSession

/-! ## Adding entries -/

/-- Entries got types, one after the other, and are the last ones of their names. -/
structure Gains (c : InferenceConfig) (g : Graph) (done : List Entry) (g' : Graph) : Prop where
  kept : g.Extends g'
  typed : ∃ types, List.Forall₂ (Entry.Typed c g') done types ∧
    g'.topLevels = ((done.map Entry.name).zip types).foldl (fun es p => es.put p.1 p.2) g.topLevels

/-- A run succeeds with all entries, or the first that is left fails, by what the run does with the
entries before it and with one more. -/
inductive Progress (run : Nat → Except SessionError Unit) (outcome : Except SessionError Unit) :
    List Entry → List Entry → Prop
  | all {done} : outcome = .ok () → Progress run outcome done []
  | fails {done entry more e} : outcome = .error e → run done.length = .ok () →
      run (done.length + 1) = .error e → Progress run outcome done (entry :: more)

variable {c : InferenceConfig} {g g' g'' : Graph} {steps : Nat}

/-- A graph that keeps its top levels gains nothing. -/
theorem Gains.nil (hg : g.Extends g') (htop : g'.topLevels = g.topLevels) : Gains c g [] g' :=
  ⟨hg, [], .nil, htop⟩

theorem Gains.append {done done' : List Entry} (h : Gains c g done g') (h' : Gains c g' done' g'') :
    Gains c g (done ++ done') g'' := by
  obtain ⟨hkept, types, htyped, hlevels⟩ := h
  obtain ⟨hkept', types', htyped', hlevels'⟩ := h'
  have hlen : (done.map Entry.name).length = types.length := by
    rw [List.length_map, htyped.length_eq]
  refine ⟨hkept.trans hkept', types ++ types',
    List.rel_append (htyped.imp fun _ _ ht => ht.mono hkept') htyped', ?_⟩
  rw [List.map_append, List.zip_append hlen, List.foldl_append, ← hlevels, hlevels']

theorem Gains.single {entry : Entry} {t : TypeRef} (hg : g.Extends g') (ht : entry.Typed c g' t)
    (htop : g'.topLevels = g.topLevels.put entry.name t) : Gains c g [entry] g' :=
  ⟨hg, [t], .cons ht .nil, htop⟩

/-- Entries that succeeded before do not change how the run ends. -/
theorem Progress.append {run : Nat → Except SessionError Unit} {outcome : Except SessionError Unit}
    {done rest : List Entry} (before : List Entry)
    (h : Progress (fun n => run (before.length + n)) outcome done rest) :
    Progress run outcome (before ++ done) rest := by
  cases h with
  | all hok => exact .all hok
  | fails herror hok hnext =>
    rw [← Nat.add_assoc, ← List.length_append] at hnext
    exact .fails herror (List.length_append ▸ hok) hnext

/-! ## Sets of samples -/

namespace SampleSets

/-- The sets as entries. -/
def entriesOf (sets : Entries String SampleSet) : List Entry := sets.map fun e => .samples e.1 e.2

theorem addTypesOf_gains : ∀ (sets : Entries String SampleSet) {g : Graph}, g.Exact →
    ∃ done rest, entriesOf sets = done ++ rest ∧ Gains c g done (addTypesOf c sets g).2 ∧
      Progress (fun n => (addTypesOf c (sets.take n) g).1) (addTypesOf c sets g).1 done rest
  | [], g, hg => ⟨[], [], rfl, .nil (.refl g) rfl, .all rfl⟩
  | (name, set) :: sets, g, hg => by
    rcases addType_cases c name set hg with ⟨e, h⟩ | ⟨t, g₁, h, hgrown, ht, htop⟩
    · have herror : ∀ sets, addTypesOf c ((name, set) :: sets) g = (.error (.inference name e), g) :=
        fun sets => by rw [addTypesOf_cons, h]
      rw [herror sets]
      exact ⟨[], entriesOf ((name, set) :: sets), rfl, .nil (.refl g) rfl,
        .fails rfl rfl (congrArg Prod.fst (herror []))⟩
    · have hnext : ∀ sets, addTypesOf c ((name, set) :: sets) g = addTypesOf c sets g₁ :=
        fun sets => by rw [addTypesOf_cons, h]
      obtain ⟨done, rest, hsets, hgains, hends⟩ := addTypesOf_gains sets hgrown.exact
      rw [hnext]
      have hfirst : Gains c g [.samples name set] g₁ := .single hgrown.kept ht htop
      refine ⟨[.samples name set] ++ done, rest, ?_, hfirst.append hgains,
        .append [.samples name set] ?_⟩
      · rw [List.append_assoc, ← hsets]
        rfl
      · simpa only [List.length_singleton, Nat.add_comm 1, List.take_succ_cons, hnext] using hends

end SampleSets

/-! ## Schemas -/

namespace SchemaSources

/-- Named locations as entries. -/
def entriesOf (docs : Documents) (topLevels : Entries String Location) : List Entry :=
  topLevels.map fun e => .schema e.1 e.2 docs

/-- Conversions only bring more documents. -/
theorem resolver_kept {σ : Type} [Sink σ] (producers : List AttributeProducer) :
    KeptByConversions producers fun s s' : State σ => s.resolver.Grows s'.resolver where
  refl _ := .refl _
  trans h h' := h.trans h'
  follow steps l s := followAliases_grows steps [] l s.resolver
  lookup l s := Resolver.schemaAt_grows l s.resolver
  intern _ _ := .refl _
  opened _ _ _ := .refl _
  closed _ _ _ _ _ := .refl _
  addTopLevel _ _ _ := .refl _

/-- What a run over named locations does, in the eyes of documents that are known in the end. -/
theorem convertTopLevels_gains (producers : List AttributeProducer) (steps : Nat) {docs : Documents} :
    ∀ (topLevels : Entries String Location) {s : State Graph}, Sound (fun _ => False) s →
      (convertTopLevels producers steps topLevels s).2.resolver.known.Extends docs →
      ∃ done rest, entriesOf docs topLevels = done ++ rest ∧
        Gains c s.sink done (convertTopLevels producers steps topLevels s).2.sink ∧
        Progress (fun n => (convertTopLevels producers steps (topLevels.take n) s).1.mapError .schema)
          ((convertTopLevels producers steps topLevels s).1.mapError .schema) done rest ∧
        ((convertTopLevels producers steps topLevels s).1 = .ok () →
          (convertTopLevels producers steps topLevels s).2.sink.Exact)
  | [], s, hs, _ => ⟨[], [], rfl, .nil (.refl _) rfl, .all rfl, fun _ => hs.exact⟩
  | (name, l) :: topLevels, s, hs, hdocs => by
    have hconv := convert_sound producers steps _ l s hs
    rcases hc : convert producers steps l s with ⟨e | t, s₁⟩ <;> rw [hc] at hconv
    · have herror : ∀ topLevels, convertTopLevels producers steps ((name, l) :: topLevels) s =
          (.error e, s₁) := fun topLevels => by rw [convertTopLevels_cons, hc]
      obtain ⟨hfollows, -⟩ := hconv
      rw [herror topLevels]
      exact ⟨[], entriesOf docs ((name, l) :: topLevels), rfl, .nil hfollows.nodes hfollows.topLevels,
        .fails rfl rfl (congrArg (Except.mapError SessionError.schema ∘ Prod.fst) (herror [])), nofun⟩
    · have hnext : ∀ topLevels, convertTopLevels producers steps ((name, l) :: topLevels) s =
          convertTopLevels producers steps topLevels
            { s₁ with sink := (Graph.addTopLevel name t s₁.sink).2 } := fun topLevels => by
        rw [convertTopLevels_cons, hc]
      obtain ⟨hfollows, hok⟩ := hconv
      obtain ⟨hs₁, ht⟩ := hok t rfl
      rw [hnext] at hdocs ⊢
      obtain ⟨done, rest, htops, hgains, hends, hexact⟩ :=
        convertTopLevels_gains producers steps topLevels (hs₁.addTopLevel name t) hdocs
      have hfirst : Gains c s.sink [.schema name l docs] (Graph.addTopLevel name t s₁.sink).2 := by
        refine .single hfollows.nodes ⟨s₁, hs₁, Documents.Extends.trans ?_ hdocs, .refl _, ht⟩ ?_
        · exact (resolver_kept producers).convertTopLevels steps topLevels
            { s₁ with sink := (Graph.addTopLevel name t s₁.sink).2 }
        · exact congrArg (Entries.put · name t) hfollows.topLevels
      refine ⟨[.schema name l docs] ++ done, rest, ?_, hfirst.append hgains,
        .append [.schema name l docs] ?_, hexact⟩
      · rw [List.append_assoc, ← htops]
        rfl
      · simpa only [List.length_singleton, Nat.add_comm 1, List.take_succ_cons, hnext] using hends

/-- What was not resolved has no top levels. -/
theorem Reachable.topLevels_eq_nil {s : SchemaSources} (h : s.Reachable) (hs : s.resolver = none) :
    s.topLevels = [] := by
  induction h with
  | new => rfl
  | withProducers producers _ ih => exact ih hs
  | @add s source _ ih =>
    have htops : (s.add source).2.topLevels = s.topLevels := by
      unfold SchemaSources.add
      split_ifs <;> rfl
    exact htops.trans (ih ((add_resolver source s).symm.trans hs))
  | @finish s _ ih =>
    unfold SchemaSources.finish at hs ⊢
    split_ifs at hs ⊢
    · exact ih hs
    · exact ih hs
    · rcases hall : resolveAll (s.sources.length = 1) s.sources [] (.new s.store s.log) with
        ⟨_ | _, _⟩ <;> rw [hall] at hs
      · exact ih hs
      · cases hs
  | @addTypes s _ _ steps sink _ ih =>
    unfold SchemaSources.addTypes at hs ⊢
    rcases hr : s.resolver with _ | r <;> rw [hr] at hs
    · exact ih hr
    · cases hs

section AddTypes

variable {s : SchemaSources} {σ : Type} [Sink σ]

theorem addTypes_of_resolver {r : Resolver} (h : s.resolver = some r) (steps : Nat) (sink : σ) :
    s.addTypes steps sink =
      let run := convertTopLevels (AttributeProducer.builtIn ++ s.producers) steps s.topLevels
        ⟨{ r with log := s.log }, sink, []⟩
      (run.1.mapError .schema, { s with resolver := some run.2.resolver, log := run.2.resolver.log },
        run.2.sink) := by
  rw [addTypes, h]
  rfl

theorem addTypes_topLevels (steps : Nat) (s : SchemaSources) (sink : σ) :
    (s.addTypes steps sink).2.1.topLevels = s.topLevels := by
  unfold addTypes
  rcases s.resolver with _ | r <;> rfl

theorem known_addTypes (steps : Nat) (s : SchemaSources) (sink : σ) :
    s.known.Extends (s.addTypes steps sink).2.1.known := by
  rcases hr : s.resolver with _ | r
  · rw [addTypes, hr]
    exact .refl _
  · rw [addTypes_of_resolver hr]
    unfold known
    rw [hr]
    exact (resolver_kept (AttributeProducer.builtIn ++ s.producers)).convertTopLevels steps s.topLevels
      ⟨{ r with log := s.log }, sink, []⟩

theorem Reachable.addTypes_gains (h : s.Reachable) (steps : Nat) (hg : g.Exact) :
    ∃ done rest, entriesOf (s.addTypes steps g).2.1.known s.topLevels = done ++ rest ∧
      Gains c g done (s.addTypes steps g).2.2 ∧
      Progress (fun n => ({ s with topLevels := s.topLevels.take n }.addTypes steps g).1)
        (s.addTypes steps g).1 done rest ∧
      ((s.addTypes steps g).1 = .ok () → (s.addTypes steps g).2.2.Exact) := by
  rcases hr : s.resolver with _ | r
  · rw [SchemaSources.addTypes, hr, h.topLevels_eq_nil hr]
    refine ⟨[], [], rfl, .nil (.refl g) rfl, .all rfl, fun _ => hg⟩
  · have hstart : Sound (fun _ => False) (⟨{ r with log := s.log }, g, []⟩ : State Graph) := by
      refine ⟨hg, fun l t h => ?_, fun l t n h => ?_, fun l l' t h => ?_, fun l t h => ?_⟩ <;>
        cases h
    obtain ⟨done, rest, htops, hgains, hends, hexact⟩ := convertTopLevels_gains (c := c)
      (AttributeProducer.builtIn ++ s.producers) steps s.topLevels hstart (.refl _)
    rw [addTypes_of_resolver hr]
    refine ⟨done, rest, htops, hgains, ?_, fun hok => hexact ?_⟩
    · exact hends
    · simp only at hok
      rcases hout : (convertTopLevels (AttributeProducer.builtIn ++ s.producers) steps s.topLevels
        ⟨{ r with log := s.log }, g, []⟩).1 with e | _
      · rw [hout] at hok
        cases hok
      · rfl

end AddTypes

end SchemaSources

/-! ## Processors -/

namespace Processor

/-- What calls make of a new processor. -/
inductive Collected : Processor → Prop
  | samples (files : FileReader) (sources : List SampleSource) :
      Collected (samples (SampleSets.addEach files sources .empty))
  | schema {s : SchemaSources} : s.Reachable → Collected (schema s)

theorem Collected.finish {p : Processor} (h : p.Collected) : p.finish.2.Collected := by
  cases h with
  | samples files sources => exact .samples files sources
  | schema h => exact .schema h.finish

theorem Collected.addTypes {p : Processor} (h : p.Collected) {σ : Type} [Sink σ] (steps : Nat)
    (c : InferenceConfig) (sink : σ) : (p.addTypes steps c sink).2.1.Collected := by
  cases h with
  | samples files sources => exact .samples files sources
  | schema h => exact .schema (h.addTypes steps sink)

theorem length_entries_addTypes {σ : Type} [Sink σ] (steps : Nat) (c : InferenceConfig) (p : Processor)
    (sink : σ) : (p.addTypes steps c sink).2.1.entries.length = p.entries.length := by
  cases p with
  | samples s => rfl
  | schema s => simp [Processor.addTypes, entries, SchemaSources.addTypes_topLevels]

theorem Collected.addTypes_gains {p : Processor} (h : p.Collected) (steps : Nat) (hg : g.Exact) :
    ∃ done rest, (p.addTypes steps c g).2.1.entries = done ++ rest ∧
      Gains c g done (p.addTypes steps c g).2.2 ∧
      Progress (fun n => ((p.upTo n).addTypes steps c g).1) (p.addTypes steps c g).1 done rest ∧
      ((p.addTypes steps c g).1 = .ok () → (p.addTypes steps c g).2.2.Exact) := by
  cases h with
  | samples files sources =>
    obtain ⟨done, rest, hsets, hgains, hends⟩ := SampleSets.addTypesOf_gains (c := c)
      (SampleSets.addEach files sources .empty).sets hg
    have hkeeps := SampleSets.addTypesOf_keeps (SampleSets.addEach files sources .empty).sets "" c hg
    exact ⟨done, rest, hsets, hgains, hends, fun _ => hkeeps.1.exact⟩
  | @schema s h =>
    obtain ⟨done, rest, htops, hgains, hends, hexact⟩ := h.addTypes_gains (c := c) steps hg
    rw [← SchemaSources.addTypes_topLevels steps s g] at htops
    exact ⟨done, rest, htops, hgains, hends, hexact⟩

theorem addAllTypes_upToAll_zero {ps : List Processor} (h : ∀ p ∈ ps, p.Collected) (g : Graph) :
    (addAllTypes steps c (upToAll 0 ps) g).1 = .ok () := by
  induction ps generalizing g with
  | nil => rfl
  | cons p rest ih =>
    obtain ⟨hp, hrest⟩ := List.forall_mem_cons.1 h
    have hok : ((p.upTo 0).addTypes steps c g).1 = .ok () := by
      cases hp with
      | samples files sources => rfl
      | @schema s h =>
        rcases hr : s.resolver with _ | r <;> simp only [upTo, addTypes, SchemaSources.addTypes, hr]
        rfl
    rw [upToAll, addAllTypes, Nat.zero_sub]
    rcases hp : (p.upTo 0).addTypes steps c g with ⟨_ | _, p', g'⟩ <;> rw [hp] at hok
    · cases hok
    · exact ih hrest g'

/-- Processors in turn give their entries types, up to the first entry that fails. -/
theorem addAllTypes_gains (steps : Nat) (c : InferenceConfig) {ps : List Processor}
    (h : ∀ p ∈ ps, p.Collected) (hg : g.Exact) :
    ∃ done rest, (addAllTypes steps c ps g).2.1.flatMap entries = done ++ rest ∧
      Gains c g done (addAllTypes steps c ps g).2.2 ∧
      Progress (fun n => (addAllTypes steps c (upToAll n ps) g).1) (addAllTypes steps c ps g).1 done
        rest := by
  induction ps generalizing g with
  | nil => exact ⟨[], [], rfl, .nil (.refl g) rfl, .all rfl⟩
  | cons p ps ih =>
    obtain ⟨hp, hps⟩ := List.forall_mem_cons.1 h
    obtain ⟨done, rest, hentries, hgains, hends, hexact⟩ := hp.addTypes_gains (c := c) steps hg
    have hlen := length_entries_addTypes steps c p g
    rcases hadd : p.addTypes steps c g with ⟨e | _, p', g'⟩ <;>
      rw [hadd] at hentries hgains hends hexact hlen <;> rw [addAllTypes, hadd]
    · cases hends with
      | all hok => cases hok
      | @fails entry more _ herror hok hnext =>
        have hle : done.length - p.entries.length = 0 := by
          have := congrArg List.length hentries
          rw [List.length_append] at this
          omega
        refine ⟨done, entry :: (more ++ ps.flatMap entries), ?_, hgains, .fails herror ?_ ?_⟩
        · rw [List.flatMap_cons, hentries, List.append_assoc, List.cons_append]
        · rw [upToAll, addAllTypes, hle]
          rcases hfirst : (p.upTo done.length).addTypes steps c g with ⟨_ | _, p₁, g₁⟩ <;>
            rw [hfirst] at hok
          · cases hok
          · exact addAllTypes_upToAll_zero hps g₁
        · rw [upToAll, addAllTypes]
          rcases hfirst : (p.upTo (done.length + 1)).addTypes steps c g with ⟨_ | _, p₁, g₁⟩ <;>
            rw [hfirst] at hnext
          · exact hnext
          · cases hnext
    · cases hends with
      | fails herror => cases herror
      | all _ =>
        rw [List.append_nil] at hentries
        obtain ⟨done', rest', hentries', hgains', hends'⟩ := ih hps (hexact rfl)
        refine ⟨done ++ done', rest', ?_, hgains.append hgains', .append done ?_⟩
        · rw [List.flatMap_cons, hentries, hentries', List.append_assoc]
        · have hrun : ∀ n, (addAllTypes steps c (upToAll (done.length + n) (p :: ps)) g).1 =
              (addAllTypes steps c (upToAll n ps) g').1 := fun n => by
            rw [← hentries, hlen, upToAll, upTo_of_le (Nat.le_add_right _ n), addAllTypes, hadd,
              Nat.add_sub_cancel_left]
          simpa only [hrun] using hends'

/-! ## The entries of a processor -/

/-- The top levels that one address of a source stands for. -/
def listed (alone : Bool) (source : SchemaSource) : ResolvedRefs → List (String × Location)
  | .single name l => [(SchemaSources.singleName alone source name, l)]
  | .multiple refs => refs

/-- What a resolved processor lists: the names that samples were given, in the order of the first
ones; or what the addresses of the sources stand for in turn, of which a later one replaces an
earlier one of its name. -/
inductive Resolves : Processor → Processor → Prop
  | samples (files : FileReader) (sources : List SampleSource) {s : SampleSets} :
      s.sets = .tabulate (SampleSets.namesOf (SampleSets.taken files sources .empty))
        (SampleSets.setOf files (SampleSets.taken files sources .empty)) →
      Resolves (samples (SampleSets.addEach files sources .empty)) (samples s)
  | schema {s s' : SchemaSources} {names : List (List (String × Location))} :
      List.Forall₂ (fun e entries => ∃ refs, s'.known.refs? e.1 e.2.name = some refs ∧
        entries = listed (s.sources.length = 1) e.2 refs) s.sources names →
      s'.topLevels = .ofList names.flatten → Resolves (schema s) (schema s')

theorem resolveAll_listed {alone : Bool} : ∀ {sources : List (SchemaUri × SchemaSource)}
    {topLevels topLevels' : Entries String Location} {r r' : Resolver},
    SchemaSources.resolveAll alone sources topLevels r = (.ok topLevels', r') →
      ∃ names, List.Forall₂ (fun e entries => ∃ refs, r'.known.refs? e.1 e.2.name = some refs ∧
          entries = listed alone e.2 refs) sources names ∧
        topLevels' = names.flatten.foldl (fun es p => es.put p.1 p.2) topLevels
  | [], topLevels, _, r, _, h => by
    cases h
    exact ⟨[], .nil, rfl⟩
  | (uri, source) :: rest, topLevels, topLevels', r, r', h => by
    obtain ⟨refs, r₁, hrefs, h⟩ := Action.of_bind_ok h
    have hgrow : r₁.Grows (SchemaSources.resolveAll alone rest _ r₁).2 :=
      SchemaSources.resolveAll_grows rest (SchemaSources.putRefs alone source topLevels refs) r₁
    rw [h] at hgrow
    obtain ⟨names, hnames, htops⟩ := resolveAll_listed h
    refine ⟨listed alone source refs :: names, .cons ⟨refs, ?_, rfl⟩ hnames, ?_⟩
    · exact Documents.Extends.refs? hgrow (Resolver.refs?_of_refsForUri hrefs)
    · rw [htops, List.flatten_cons, List.foldl_append]
      cases refs <;> rfl

theorem Collected.resolves {p : Processor} (h : p.Collected) (hfinish : p.finish.1 = .ok ()) :
    p.Resolves p.finish.2 := by
  cases h with
  | samples files sources =>
    have hlogged := (SampleSets.logged_empty files).addEach sources
    exact .samples files sources hlogged.sets
  | @schema s h =>
    have hs : s.finish = (.ok (), s.finish.2) := Prod.ext hfinish rfl
    change Resolves (Processor.schema s) (Processor.schema s.finish.2)
    generalize s.finish.2 = s' at hs
    rcases SchemaSources.of_finish hs with ⟨hnone, rfl⟩ | ⟨topLevels, r, hall, rfl⟩
    · have hnil := h.topLevels_eq_nil (h.resolver_eq_none hnone)
      refine .schema ?_ (show s'.topLevels = .ofList ([] : List (List (String × Location))).flatten
        from hnil)
      rw [hnone]
      exact .nil
    · obtain ⟨names, hnames, htops⟩ := resolveAll_listed hall
      exact .schema hnames htops

theorem Resolves.addTypes {p q : Processor} (h : p.Resolves q) {σ : Type} [Sink σ] (steps : Nat)
    (c : InferenceConfig) (sink : σ) : p.Resolves (q.addTypes steps c sink).2.1 := by
  cases h with
  | samples files sources hsets => exact .samples files sources hsets
  | @schema s s' names hnames htops =>
    change Resolves (Processor.schema s) (Processor.schema (s'.addTypes steps sink).2.1)
    have hknown := SchemaSources.known_addTypes steps s' sink
    refine .schema (hnames.imp ?_) ((SchemaSources.addTypes_topLevels steps s' sink).trans htops)
    rintro e entries ⟨refs, hrefs, he⟩
    exact ⟨refs, hknown.refs? hrefs, he⟩

/-- What becomes of processors, one by one. -/
structure Resolved (p q : Processor) : Prop where
  resolves : p.Resolves q
  collected : q.Collected

theorem finishAll_resolved : ∀ {ps : List Processor}, (∀ p ∈ ps, p.Collected) →
    (finishAll ps).1 = .ok () → List.Forall₂ Resolved ps (finishAll ps).2
  | [], _, _ => .nil
  | p :: rest, h, hok => by
    obtain ⟨hp, hrest⟩ := List.forall_mem_cons.1 h
    have hresolves := hp.resolves
    have hcollected := hp.finish
    rw [finishAll] at hok ⊢
    rcases hf : p.finish with ⟨e | _, p'⟩ <;> rw [hf] at hok hresolves hcollected
    · cases hok
    · exact .cons ⟨hresolves rfl, hcollected⟩ (finishAll_resolved hrest hok)

theorem addAllTypes_resolved {σ : Type} [Sink σ] (steps : Nat) (c : InferenceConfig)
    {ps qs : List Processor} (h : List.Forall₂ Resolved ps qs) (sink : σ) :
    List.Forall₂ Resolved ps (addAllTypes steps c qs sink).2.1 := by
  induction h generalizing sink with
  | nil => exact .nil
  | @cons p q ps qs hpq hrest ih =>
    have hlater : p.Resolved (q.addTypes steps c sink).2.1 :=
      ⟨hpq.resolves.addTypes steps c sink, hpq.collected.addTypes steps c sink⟩
    rw [addAllTypes]
    rcases hq : q.addTypes steps c sink with ⟨e | _, q', sink₁⟩ <;> rw [hq] at hlater
    · exact .cons hlater hrest
    · exact .cons hlater (ih sink₁)

end Processor

/-! ## Top levels -/

open Processor

theorem ResolvedSession.Becomes.resolved {ps : List Processor} {s s' : ResolvedSession}
    (h : s.Becomes s') (hs : List.Forall₂ Processor.Resolved ps s.processors) :
    List.Forall₂ Processor.Resolved ps s'.processors := by
  induction h with
  | same => exact hs
  | addTypes steps c sink _ ih => exact addAllTypes_resolved steps c ih sink

/-- The entries of a resolved session come processor by processor, and within one in the order in
which the sources brought their names. Whatever types the session added before, adding types to an
empty graph leaves the top levels of these entries, one after the other, where a later one of a name
replaces an earlier one: of all entries, or of those before the first that fails. -/
theorem topLevels_addTypes (s : Session) (hs : ∀ p ∈ s.processors, p.Collected)
    (resolved later : ResolvedSession) (h : s.finish.1 = .ok resolved)
    (hlater : resolved.Becomes later) (steps : Nat) (c : InferenceConfig) :
    let run := later.addTypes steps c Graph.empty
    List.Forall₂ Resolves s.processors run.2.1.processors ∧
      ∃ done rest types, run.2.1.entries = done ++ rest ∧
        List.Forall₂ (Entry.Typed c run.2.2) done types ∧
        run.2.2.topLevels = .ofList ((done.map Entry.name).zip types) ∧
        Progress (fun n => ((later.upTo n).addTypes steps c Graph.empty).1) run.1 done rest := by
  intro run
  have hresolved : List.Forall₂ Processor.Resolved s.processors later.processors := by
    have hall := finishAll_resolved hs
    rw [Session.finish_eq_ok_iff.1 h] at hall
    exact hlater.resolved (hall rfl)
  have hcollected : ∀ p ∈ later.processors, p.Collected := fun p hp => by
    obtain ⟨q, -, hq⟩ := List.Forall₂.exists_of_mem_right hresolved hp
    exact hq.collected
  obtain ⟨done, rest, hentries, ⟨-, types, htyped, htops⟩, hends⟩ :=
    addAllTypes_gains steps c hcollected (g := Graph.empty) nofun
  refine ⟨(addAllTypes_resolved steps c hresolved Graph.empty).imp fun _ _ hpq => hpq.resolves, done,
    rest, types, hentries, htyped, htops, hends⟩

/-- Two documents, of which the second one refers to a third that is missing. -/
def shelf : SchemaStore := fun _ id => .ok <|
  if id.text = "A" then some (.object [("type", .string "string")])
  else if id.text = "B" then some (.object [("$ref", .string "C")])
  else none

/-- A sample and two schemas, the first of the sample's name. -/
def stocked : Session :=
  let sources : List Source := [.samples ⟨"A", [.text "1"], none⟩,
    .schema ⟨"First", some ["A"], none, none⟩, .schema ⟨"Second", some ["B"], none, none⟩]
  sources.foldl (fun s source => (s.add source).2) (.new ⟨some shelf, [], fun _ => none⟩)

/-- The last of three entries fails, and the second one has replaced the type of the first. -/
theorem topLevels_addTypes_stocked :
    (∀ p ∈ stocked.processors, p.Collected) ∧ ∃ resolved, stocked.finish.1 = .ok resolved ∧
      let run := resolved.addTypes 8 .default Graph.empty
      run.1 ≠ .ok () ∧ run.2.1.entries.map Entry.name = ["A", "A", "B"] ∧
        ∃ done rest types, run.2.1.entries = done ++ rest ∧ rest ≠ [] ∧
          List.Forall₂ (Entry.Typed .default run.2.2) done types ∧
          run.2.2.topLevels = .ofList ((done.map Entry.name).zip types) ∧
          run.2.2.topLevels.keys = ["A"] := by
  have hcollected : ∀ p ∈ stocked.processors, p.Collected := by
    have hprocessors : stocked.processors =
        [.samples (SampleSets.addEach (fun _ => none) [⟨"A", [.text "1"], none⟩] .empty),
          .schema (SchemaSources.addEach [⟨"First", some ["A"], none, none⟩,
            ⟨"Second", some ["B"], none, none⟩] (.new (some shelf) []))] := rfl
    rw [hprocessors]
    simp only [List.forall_mem_cons]
    exact ⟨.samples _ _, .schema (.add _ (.add _ (.new _ _))), nofun⟩
  have hfinish : stocked.finish.1 = .ok ⟨(Processor.finishAll stocked.processors).2⟩ :=
    Session.finish_eq_ok_iff.2 (Prod.ext (by decide +kernel) rfl)
  have herror : ((ResolvedSession.mk (Processor.finishAll stocked.processors).2).addTypes 8 .default
      Graph.empty).1 ≠ .ok () := by
    decide +kernel
  obtain ⟨-, done, rest, types, hentries, htyped, htops, hends⟩ :=
    topLevels_addTypes stocked hcollected _ _ hfinish .same 8 .default
  refine ⟨hcollected, _, hfinish, herror, by decide +kernel, done, rest, types, hentries, ?_, htyped,
    htops, by decide +kernel⟩
  rintro rfl
  cases hends with
  | all hok => exact herror hok

end JsonTypes
