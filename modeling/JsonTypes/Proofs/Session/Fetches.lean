import Mathlib.Data.Finset.Card
import JsonTypes.Proofs.Session.Lifecycle

/-!
# Documents are fetched once

A resolver asks its store for no document that it has got. To see all that it asks for, also what
the texts of an input store answer, the input store as a whole is put behind one without texts
(`SchemaSources.observed`). That changes nothing but the log, which gets all requests now. In it no
address comes again after it was answered with a document, and the documents that the resolver has
are those that were answers (`Resolver.Observes`).
-/

namespace JsonTypes

/-! ## Requests and answers -/

/-- A request with what a store said. -/
abbrev Answer := DocumentId × Except SchemaError (Option Json)

/-- Whether the answer is a document. -/
def Answer.isDocument : Answer → Bool
  | (_, .ok (some _)) => true
  | _ => false

/-- The answers of a store to requests in turn, after requests before. -/
def SchemaStore.answers (store : SchemaStore) : List DocumentId → List DocumentId → List Answer
  | _, [] => []
  | before, id :: rest => (id, store before id) :: answers store (before ++ [id]) rest

/-- No address is asked for again after an answer that was a document. -/
def AskedOnce (answers : List Answer) : Prop :=
  answers.Pairwise fun first later => first.isDocument → later.1 ≠ first.1

/-- The addresses for which answers gave a document. -/
def obtained (answers : List Answer) : List DocumentId :=
  (answers.filter (·.isDocument)).map (·.1)

theorem SchemaStore.answers_concat (store : SchemaStore) (log : List DocumentId) (id : DocumentId) :
    ∀ before, store.answers before (log ++ [id]) =
      store.answers before log ++ [(id, store (before ++ log) id)] := by
  induction log with
  | nil => exact fun before => by rw [List.append_nil]; rfl
  | cons first rest ih =>
    intro before
    have hrest := ih (before ++ [first])
    rw [List.append_assoc, List.singleton_append] at hrest
    exact congrArg (_ :: ·) hrest

theorem AskedOnce.nodup_obtained {answers : List Answer} (h : AskedOnce answers) :
    (obtained answers).Nodup := by
  refine List.pairwise_map.2 ((List.pairwise_filter.2 (h.imp ?_)))
  exact fun hask hfirst _ e => hask hfirst e.symm

theorem AskedOnce.concat {answers : List Answer} (h : AskedOnce answers) {a : Answer}
    (hnew : a.1 ∉ obtained answers) : AskedOnce (answers ++ [a]) := by
  refine List.pairwise_append.2 ⟨h, List.pairwise_singleton _ _, ?_⟩
  intro first hfirst later hlater hd e
  obtain rfl := List.mem_singleton.1 hlater
  exact hnew (List.mem_map.2 ⟨first, List.mem_filter.2 ⟨hfirst, hd⟩, e.symm⟩)

theorem obtained_concat (answers : List Answer) (a : Answer) :
    obtained (answers ++ [a]) =
      if a.isDocument then obtained answers ++ [a.1] else obtained answers := by
  unfold obtained
  rw [List.filter_append, List.map_append]
  split_ifs with h
  · rw [List.filter_cons_of_pos h]
    rfl
  · rw [List.filter_cons_of_neg h]
    exact List.append_nil _

/-! ## An input store as a whole -/

namespace InputStore

/-- Whether a request goes to the backing store. -/
def asksBacking (s : InputStore) (id : DocumentId) : Bool :=
  (s.texts.get? id).isNone && s.backing.isSome

/-- The input store as one store, given the fetches from its backing store before. What it says
depends on the requests since then only as far as they went to the backing store. -/
def asStore (s : InputStore) (earlier : List DocumentId) : SchemaStore := fun log id =>
  (s.fetch id (earlier ++ log.filter s.asksBacking)).1

theorem fetch_log (s : InputStore) (id : DocumentId) (log : List DocumentId) :
    (s.fetch id log).2 = log ++ [id].filter s.asksBacking := by
  rcases ht : s.texts.get? id with _ | text <;> rcases hb : s.backing with _ | backing <;>
    simp [fetch, asksBacking, ht, hb]

/-- Of the answers to all requests, the backing store gave those that it was asked for. -/
theorem answers_backing {s : InputStore} {backing : SchemaStore} (h : s.backing = some backing)
    (earlier : List DocumentId) (log : List DocumentId) : ∀ before,
      backing.answers (earlier ++ before.filter s.asksBacking) (log.filter s.asksBacking) =
        ((s.asStore earlier).answers before log).filter fun a => s.asksBacking a.1 := by
  -- The induction is on the requests that are left; those before only set the time on both sides.
  induction log with
  | nil => exact fun _ => rfl
  | cons id rest ih =>
    intro before
    have hrest := ih (before ++ [id])
    rw [List.filter_append, ← List.append_assoc] at hrest
    rw [SchemaStore.answers]
    by_cases hid : s.asksBacking id
    · have hfetch : s.asStore earlier before id =
          backing (earlier ++ before.filter s.asksBacking) id := by
        have htext : s.texts.get? id = none := by
          simpa using (Bool.and_eq_true_iff.1 hid).1
        unfold asStore fetch
        rw [htext, h]
      rw [List.filter_cons_of_pos hid, List.filter_nil] at hrest
      rw [List.filter_cons_of_pos hid, SchemaStore.answers, hrest, ← hfetch]
      exact (List.filter_cons_of_pos (p := fun a : Answer => s.asksBacking a.1) hid).symm
    · rw [List.filter_cons_of_neg hid, List.filter_nil, List.append_nil] at hrest
      rw [List.filter_cons_of_neg hid, hrest]
      exact (List.filter_cons_of_neg (p := fun a : Answer => s.asksBacking a.1) hid).symm

end InputStore

/-! ## Resolvers -/

namespace Resolver

/-- A resolver beside one that does the same with a log of all requests. -/
structure Observes (store : InputStore) (earlier : List DocumentId) (r observed : Resolver) :
    Prop where
  same : r.store = store
  whole : observed.store = ⟨[], some (store.asStore earlier)⟩
  documents : r.documents = observed.documents
  log : r.log = earlier ++ observed.log.filter store.asksBacking
  keys : observed.documents.keys = obtained ((store.asStore earlier).answers [] observed.log)
  once : AskedOnce ((store.asStore earlier).answers [] observed.log)

theorem observes_new (store : InputStore) (earlier : List DocumentId) :
    Observes store earlier (.new store earlier) (.new ⟨[], some (store.asStore earlier)⟩ []) :=
  ⟨rfl, rfl, rfl, (List.append_nil earlier).symm, rfl, .nil⟩

variable {store : InputStore} {earlier : List DocumentId} {r observed : Resolver}

/-- A request for what is not known gets the same answer on both sides. -/
theorem Observes.answers (h : Observes store earlier r observed) (id : DocumentId) :
    (store.asStore earlier).answers [] (observed.log ++ [id]) =
      (store.asStore earlier).answers [] observed.log ++ [(id, (store.fetch id r.log).1)] := by
  rw [SchemaStore.answers_concat, h.log]
  rfl

theorem Observes.asked (h : Observes store earlier r observed) {id : DocumentId}
    (hid : r.known id = none) :
    AskedOnce ((store.asStore earlier).answers [] (observed.log ++ [id])) := by
  have hnew : id ∉ obtained ((store.asStore earlier).answers [] observed.log) := by
    rw [← h.keys, ← h.documents]
    exact Entries.get?_eq_none_iff.1 hid
  rw [h.answers]
  exact h.once.concat hnew

theorem Observes.fetch_log (h : Observes store earlier r observed) (id : DocumentId) :
    (store.fetch id r.log).2 = earlier ++ (observed.log ++ [id]).filter store.asksBacking := by
  rw [InputStore.fetch_log, List.filter_append, ← List.append_assoc, ← h.log]

theorem Observes.missed (h : Observes store earlier r observed) {id : DocumentId}
    (hid : r.known id = none) (ha : Answer.isDocument (id, (store.fetch id r.log).1) = false) :
    Observes store earlier { r with log := (store.fetch id r.log).2 }
      { observed with log := observed.log ++ [id] } where
  same := h.same
  whole := h.whole
  documents := h.documents
  log := h.fetch_log id
  keys := by
    rw [h.answers, obtained_concat, ha]
    exact h.keys
  once := h.asked hid

theorem Observes.found (h : Observes store earlier r observed) {id : DocumentId} {d : Json}
    (hid : r.known id = none) (ha : (store.fetch id r.log).1 = .ok (some d)) :
    Observes store earlier
      { r with log := (store.fetch id r.log).2, documents := r.documents.put id d }
      { observed with log := observed.log ++ [id], documents := observed.documents.put id d } where
  same := h.same
  whole := h.whole
  documents := congrArg (·.put id d) h.documents
  log := h.fetch_log id
  keys := by
    have hput : observed.documents.put id d = observed.documents ++ [(id, d)] :=
      Entries.put_of_get?_eq_none (h.documents ▸ hid) d
    have hkeys : (observed.documents ++ [(id, d)]).keys = observed.documents.keys ++ [id] :=
      List.map_append
    rw [hput, hkeys, h.keys, h.answers, obtained_concat, ha]
    rfl
  once := h.asked hid

theorem bisimulation_observes (store : InputStore) (earlier : List DocumentId) :
    Bisimulation (Observes store earlier) := by
  intro id r observed h
  rcases hid : r.known id with _ | d
  · have hid' : observed.known id = none := by rw [← hid, known, known, h.documents]
    have hfetch : observed.store.fetch id observed.log =
        ((store.fetch id r.log).1, observed.log ++ [id]) := by
      rw [h.whole, h.log]
      rfl
    have hmissed := h.missed hid
    have hfound := fun d => h.found (d := d) hid
    rw [document_of_unknown hid, document_of_unknown hid', hfetch, h.same]
    rw [← h.same] at hmissed hfound ⊢
    rcases ha : r.store.fetch id r.log with ⟨e | _ | d, log⟩ <;> rw [ha] at hmissed hfound
    · exact ⟨rfl, hmissed rfl⟩
    · exact ⟨rfl, hmissed rfl⟩
    · exact ⟨rfl, hfound d rfl⟩
  · have hid' : observed.known id = some d := by rw [← hid, known, known, h.documents]
    rw [document_of_known hid, document_of_known hid']
    exact ⟨rfl, h⟩

end Resolver

open Resolver

/-! ## Sources of schemas -/

/-- A sink that types can be added to. -/
structure Destination where
  σ : Type
  [sinks : Sink σ]
  sink : σ

attribute [instance] Destination.sinks

namespace SchemaSources

variable {s s' t : SchemaSources}

/-- Adds types to destinations in turn, each with a number of steps, whatever the outcomes. -/
def addTypesEach : List (Nat × Destination) → SchemaSources → SchemaSources
  | [], s => s
  | (steps, d) :: rest, s => addTypesEach rest (s.addTypes steps d.sink).2.1

/-- The same sources over their whole store, whose log gets all requests. -/
def observed (s : SchemaSources) : SchemaSources :=
  { s with texts := [], backing := some (s.store.asStore s.log), log := [] }

/-- All requests of the sources that are observed, with the answers of their store. -/
def requests (s observed : SchemaSources) : List Answer :=
  (s.store.asStore s.log).answers [] observed.log

/-- Sources after a finish, beside those over the whole store of the sources before it. -/
structure Observes (s final observed : SchemaSources) : Prop where
  matched : Matched (Resolver.Observes s.store s.log) final observed
  log : final.log = s.log ++ observed.log.filter s.store.asksBacking
  once : AskedOnce (s.requests observed)

theorem Observes.of_matched (h : Matched (Resolver.Observes s.store s.log) s' t)
    (hsome : s'.current ≠ none) : Observes s s' t := by
  obtain ⟨hs, -⟩ | ⟨r, observed, hs, ht, hobserves⟩ := h.cases
  · exact absurd hs hsome
  · have hlog := hobserves.log
    have honce := hobserves.once
    rw [log_of_current hs, log_of_current ht] at hlog
    rw [log_of_current ht] at honce
    exact ⟨h, hlog, honce⟩

theorem Observes.addTypes (h : Observes s s' t) {σ : Type} [Sink σ] (steps : Nat) (sink : σ) :
    Observes s (s'.addTypes steps sink).2.1 (t.addTypes steps sink).2.1 := by
  rcases h.matched.cases with ⟨hs, ht⟩ | ⟨r, observed, hs, -⟩
  · rw [addTypes_of_none hs, addTypes_of_none ht]
    exact h
  · obtain ⟨-, hmatched, -⟩ := h.matched.addTypes (bisimulation_observes s.store s.log) steps sink
    refine .of_matched hmatched ?_
    rw [addTypes_of_some hs]
    exact nofun

theorem Observes.addTypesEach : ∀ (calls : List (Nat × Destination)) {s' t : SchemaSources},
    Observes s s' t → Observes s (addTypesEach calls s') (addTypesEach calls t)
  | [], _, _, h => h
  | (steps, d) :: rest, _, _, h => addTypesEach rest (h.addTypes steps d.sink)

theorem finish_of_resolveAll (hs : s.sources ≠ []) (hbacking : s.backing.isSome)
    {topLevels : Entries String Location} {r : Resolver}
    (hall : resolveAll (s.sources.length = 1) s.sources [] (.new s.store s.log) =
      (.ok topLevels, r)) :
    s.finish =
      (.ok (), { s with topLevels := topLevels, resolver := some r, log := r.log }) := by
  unfold finish
  rw [if_neg (by simpa using hs), if_neg (by simp [Option.isSome_iff_ne_none.1 hbacking]), hall]

theorem Reachable.observes_finish (h : s.Reachable) (hfinish : s.finish = (.ok (), s')) :
    s.observed.finish.1 = .ok () ∧ Observes s s' s.observed.finish.2 := by
  by_cases hnil : s.sources = []
  · have hnone := h.resolver_eq_none hnil
    rw [finish_of_nil hnil] at hfinish
    cases hfinish
    rw [finish_of_nil (s := s.observed) hnil]
    refine ⟨rfl, ⟨rfl, rfl, ?_⟩, (List.append_nil s.log).symm, .nil⟩
    rw [current, current, observed, hnone]
    exact .none
  · obtain ⟨hnil', -⟩ | ⟨topLevels, r, hall, rfl⟩ := of_finish hfinish
    · exact absurd hnil' hnil
    · obtain ⟨hout, hr⟩ := resolveAll_respects (bisimulation_observes s.store s.log)
        (s.sources.length = 1) s.sources [] _ _ (observes_new s.store s.log)
      rw [hall] at hout hr
      have hok : _ = Except.ok topLevels := hout.symm
      rw [finish_of_resolveAll (s := s.observed) hnil rfl (Prod.ext hok rfl)]
      exact ⟨rfl, .of_matched ⟨rfl, rfl, .some hr⟩ nofun⟩

/-- Each document of the resolver was the answer to one request, and to no other. -/
theorem Observes.card_obtained (h : Observes s s' t) {r : Resolver} (hr : s'.resolver = some r) :
    r.fetchedDocuments = (obtained (s.requests t)).toFinset.card := by
  have hs : s'.current = some { r with log := s'.log } := by rw [current, hr, Option.map_some]
  rcases h.matched.cases with ⟨hnone, -⟩ | ⟨r', observed, hs', ht, hobserves⟩
  · rw [hs] at hnone
    cases hnone
  · rw [hs] at hs'
    cases hs'
    have hkeys : r.documents.keys = obtained (s.requests t) := by
      rw [requests, ← log_of_current ht, ← hobserves.keys]
      exact congrArg Entries.keys hobserves.documents
    rw [List.toFinset_card_of_nodup h.once.nodup_obtained, ← hkeys, Entries.keys, List.length_map]
    rfl

/-- In a resolution, and by all types that are added afterwards, the backing store is asked for no
address again that it has answered with a document, and for none that has a text, whatever it says
at which time and whichever calls fail. The documents that the resolver counts are as many as the
addresses for which it got one, among all requests that are seen when the sources are observed: with
that they are resolved to the same top levels, and every call does the same. -/
theorem fetched_once (h : s.Reachable) (hfinish : s.finish = (.ok (), s'))
    (calls : List (Nat × Destination)) :
    let final := addTypesEach calls s'
    let observed := addTypesEach calls s.observed.finish.2
    ∃ fetched, final.log = s.log ++ fetched ∧
      (∀ backing ∈ s.backing, AskedOnce (backing.answers s.log fetched)) ∧
      (∀ id ∈ fetched, s.texts.get? id = none) ∧
      (∀ r, final.resolver = some r →
        r.fetchedDocuments = (obtained (s.requests observed)).toFinset.card) ∧
      s.observed.finish.1 = .ok () ∧ AskedOnce (s.requests observed) ∧
      fetched = observed.log.filter s.store.asksBacking ∧ final.topLevels = observed.topLevels ∧
      ∀ (σ : Type) [Sink σ] (steps : Nat) (sink : σ),
        (final.addTypes steps sink).1 = (observed.addTypes steps sink).1 ∧
          (final.addTypes steps sink).2.2 = (observed.addTypes steps sink).2.2 := by
  intro final observed
  obtain ⟨hok, hobserves⟩ := h.observes_finish hfinish
  have hfinal : Observes s final observed := hobserves.addTypesEach calls
  refine ⟨_, hfinal.log, fun backing hb => ?_, fun id hid => ?_, fun r hr => ?_, hok,
    hfinal.once, rfl, hfinal.matched.topLevels, fun σ _ steps sink => ?_⟩
  · have hanswers := InputStore.answers_backing (s := s.store) hb s.log observed.log []
    rw [List.filter_nil, List.append_nil] at hanswers
    rw [hanswers]
    exact hfinal.once.filter _
  · have hasks := (List.mem_filter.1 hid).2
    exact Option.isNone_iff_eq_none.1 (Bool.and_eq_true_iff.1 hasks).1
  · exact hfinal.card_obtained hr
  · obtain ⟨hout, -, hsink⟩ :=
      hfinal.matched.addTypes (bisimulation_observes s.store s.log) steps sink
    exact ⟨hout, hsink⟩

/-- A store that refers to a document which it has only when it is asked for it again. -/
def lateStore : SchemaStore := fun log id => .ok <|
  if id.text = "a.json" then some (.object [("$ref", .string "b.json")])
  else if id.text = "b.json" ∧ id ∈ log then some (.object [("type", .string "string")])
  else none

/-- A schema in the store, and one with a text. -/
def lateSources : SchemaSources :=
  (((new (some lateStore) []).add ⟨"A", some ["a.json"], none, none⟩).2.add
    ⟨"T", some ["t.json"], some "true", none⟩).2

/-- Of three times that types are added the first fails, and the last has nothing to fetch. -/
theorem fetched_once_late :
    let calls : List (Nat × Destination) := List.replicate 3 (8, ⟨Graph, .empty⟩)
    let final := addTypesEach calls lateSources.finish.2
    final.log = [⟨"a.json"⟩, ⟨"b.json"⟩, ⟨"b.json"⟩] ∧
      AskedOnce (lateStore.answers [] final.log) ∧ ⟨"t.json"⟩ ∉ final.log ∧
      ∃ r, final.resolver = some r ∧ r.fetchedDocuments = 3 := by
  intro calls final
  have hreachable : lateSources.Reachable := .add _ (.add _ (.new _ _))
  have hfinish : lateSources.finish = (.ok (), lateSources.finish.2) :=
    Prod.ext (by decide +kernel) rfl
  have hlog : final.log = [⟨"a.json"⟩, ⟨"b.json"⟩, ⟨"b.json"⟩] := by decide +kernel
  obtain ⟨fetched, hfetched, honce, htexts, hcount, -⟩ := fetched_once hreachable hfinish calls
  obtain rfl : final.log = fetched := hfetched.trans (List.nil_append fetched)
  have hsome : final.resolver.isSome = true := by decide +kernel
  obtain ⟨r, hr⟩ := Option.isSome_iff_exists.1 hsome
  refine ⟨hlog, honce lateStore rfl, fun htext => ?_, r, hr, (hcount r hr).trans ?_⟩
  · exact absurd (htexts _ htext) (by decide +kernel)
  · decide +kernel

end SchemaSources

end JsonTypes
