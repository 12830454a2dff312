import JsonTypes.Proofs.Schema.Region
import Mathlib.Data.Set.Card
import Mathlib.Logic.Relation

/-!
# Chains of references

A reference leads from one location to the next (`Documents.Refers`), and what stands at a location
has at most one, so every location starts one chain. The chain ends at a location without a
reference, or breaks where something does not resolve, or comes back to a location that it has
passed (`Documents.Revisits`).

Following aliases tells these apart: it ends at the location exactly if the chain does
(`followAliases_ok_iff`), it calls the reference circular if the chain comes back
(`followAliases_of_revisits`), and it takes at most one step for each reference that it can meet
(`followAliases_in_time`).
-/

/-- A list without repetition is no longer than a finite set that it is from. -/
theorem List.Nodup.length_le_ncard {α : Type} {xs : List α} (hn : xs.Nodup) {s : Set α}
    (hs : s.Finite) (h : ∀ x ∈ xs, x ∈ s) : xs.length ≤ s.ncard := by
  classical
  rw [← List.toFinset_card_of_nodup hn, ← Set.ncard_coe_finset]
  exact Set.ncard_le_ncard (fun x hx => h x (List.mem_toFinset.1 hx)) hs

namespace JsonTypes

open Relation

namespace Documents

variable {docs : Documents} {l l' x y : Location}

/-- There is a reference at the first location, and it means the second one. -/
def Refers (docs : Documents) (l l' : Location) : Prop :=
  ∃ v reference, docs.schemaAt? l = some v ∧ Materialize.reference? v = some reference ∧
    docs.locate? (l.document.resolve reference) = some l'

/-- There is a reference at the location. -/
def IsAlias (docs : Documents) (l : Location) : Prop :=
  ∃ v reference, docs.schemaAt? l = some v ∧ Materialize.reference? v = some reference

/-- The chain from a location comes to a location twice. -/
def Revisits (docs : Documents) (l : Location) : Prop :=
  ∃ x, ReflTransGen docs.Refers l x ∧ TransGen docs.Refers x x

/-- The chain from a location comes to a place that does not exist, or to a reference that means
no location. -/
def Breaks (docs : Documents) (l : Location) : Prop :=
  ∃ x, ReflTransGen docs.Refers l x ∧ (docs.schemaAt? x = none ∨
    docs.IsAlias x ∧ ∀ y, ¬docs.Refers x y)

theorem Refers.unique (h : docs.Refers l x) (h' : docs.Refers l y) : x = y := by
  obtain ⟨v, reference, hv, hr, hl⟩ := h
  obtain ⟨v', reference', hv', hr', hl'⟩ := h'
  rw [hv] at hv'
  cases hv'
  rw [hr] at hr'
  cases hr'
  rw [hl] at hl'
  exact Option.some.inj hl'

theorem Refers.isAlias (h : docs.Refers l l') : docs.IsAlias l := by
  obtain ⟨v, reference, hv, hr, -⟩ := h
  exact ⟨v, reference, hv, hr⟩

theorem not_isAlias {v : Json} (hv : docs.schemaAt? l = some v)
    (hr : Materialize.reference? v = none) : ¬docs.IsAlias l := by
  rintro ⟨w, reference, hw, hr'⟩
  rw [hv] at hw
  cases hw
  rw [hr] at hr'
  cases hr'

/-! ## The three ends of a chain -/

theorem Revisits.exists_refers (h : docs.Revisits l) : ∃ l', docs.Refers l l' := by
  obtain ⟨x, hx, hcycle⟩ := h
  rcases hx.cases_head with rfl | ⟨l', hl, -⟩
  · obtain ⟨l', hl, -⟩ := TransGen.head'_iff.1 hcycle
    exact ⟨l', hl⟩
  · exact ⟨l', hl⟩

theorem Revisits.of_refers (h : docs.Revisits l) (hl : docs.Refers l l') : docs.Revisits l' := by
  obtain ⟨x, hx, hcycle⟩ := h
  rcases hx.cases_head with rfl | ⟨l₁, hl₁, hx⟩
  · obtain ⟨l₁, hl₁, hback⟩ := TransGen.head'_iff.1 hcycle
    exact ⟨l, hl.unique hl₁ ▸ hback, hcycle⟩
  · exact ⟨x, hl.unique hl₁ ▸ hx, hcycle⟩

theorem Revisits.goes_on (h : docs.Revisits l) (hx : ReflTransGen docs.Refers l x) :
    ∃ y, docs.Refers x y := by
  induction hx using ReflTransGen.head_induction_on with
  | refl => exact h.exists_refers
  | head hl _ ih => exact ih (h.of_refers hl)

theorem Breaks.of_refers (h : docs.Breaks l) (hl : docs.Refers l l') : docs.Breaks l' := by
  obtain ⟨x, hx, hend⟩ := h
  rcases hx.cases_head with rfl | ⟨l₁, hl₁, hx⟩
  · rcases hend with hnone | ⟨-, hno⟩
    · obtain ⟨v, -, hv, -⟩ := hl
      rw [hnone] at hv
      cases hv
    · exact absurd hl (hno l')
  · exact ⟨x, hl.unique hl₁ ▸ hx, hend⟩

theorem Breaks.not_revisits (h : docs.Breaks l) : ¬docs.Revisits l := by
  obtain ⟨x, hx, hend⟩ := h
  intro hrevisits
  obtain ⟨y, hy⟩ := hrevisits.goes_on hx
  rcases hend with hnone | ⟨-, hno⟩
  · obtain ⟨v, -, hv, -⟩ := hy
    rw [hnone] at hv
    cases hv
  · exact hno y hy

theorem Leads.not_revisits (h : docs.Leads l l') : ¬docs.Revisits l := by
  intro hrevisits
  induction h with
  | here hs hr =>
    obtain ⟨y, hy⟩ := hrevisits.exists_refers
    exact not_isAlias hs hr hy.isAlias
  | there hs hr ht _ ih => exact ih (hrevisits.of_refers ⟨_, _, hs, hr, ht⟩)

theorem Leads.not_breaks (h : docs.Leads l l') : ¬docs.Breaks l := by
  intro hbreaks
  induction h with
  | @here l v hs hr =>
    obtain ⟨x, hx, hend⟩ := hbreaks
    rcases hx.cases_head with rfl | ⟨y, hy, -⟩
    · rcases hend with hnone | ⟨halias, -⟩
      · rw [hs] at hnone
        cases hnone
      · exact not_isAlias hs hr halias
    · exact not_isAlias hs hr hy.isAlias
  | there hs hr ht _ ih => exact ih (hbreaks.of_refers ⟨_, _, hs, hr, ht⟩)

theorem Leads.finite_chain (h : docs.Leads l l') : {x | ReflTransGen docs.Refers l x}.Finite := by
  induction h with
  | @here l v hs hr =>
    refine (Set.finite_singleton l).subset fun x hx => ?_
    rcases hx.cases_head with rfl | ⟨y, hy, -⟩
    · rfl
    · exact absurd hy.isAlias (not_isAlias hs hr)
  | @there l v reference target l' hs hr ht _ ih =>
    refine (ih.insert l).subset fun x hx => ?_
    rcases hx.cases_head with rfl | ⟨y, hy, hx⟩
    · exact .inl rfl
    · exact .inr (hy.unique ⟨v, reference, hs, hr, ht⟩ ▸ hx)

end Documents

/-! ## Resolvers of documents -/

/-- An error that does not come from following references, unless the store says it itself. -/
def InputStore.Plain (s : InputStore) (e : SchemaError) : Prop :=
  e ≠ .outOfSteps ∧ ∀ at_, e = .circularReference at_ → ∃ id log, (s.fetch id log).1 = .error e

/-- What a store has at first. -/
def InputStore.documents (s : InputStore) : Documents := fun id =>
  (s.fetch id []).1.toOption.join

theorem Schema.parse_ne (id : DocumentId) (text : String) :
    parse id text ≠ .error .outOfSteps := by
  intro h
  unfold parse at h
  rcases hr : read text with reason | document <;> rw [hr] at h
  · cases h
  · change validate id document >>= (fun _ => pure document) = _ at h
    rcases hv : validate id document with e | _ <;> rw [hv] at h <;> cases h
    unfold validate at hv
    rcases hp : problem? document with _ | reason <;> rw [hp] at hv <;> cases hv

namespace Resolver

/-- The store has the documents, each at its address whenever it is asked, and no others. What it
says where it has none is left open. -/
structure Serves (r : Resolver) (docs : Documents) : Prop where
  known : r.known.Extends docs
  fetched : ∀ id log d, (r.store.fetch id log).1 = .ok (some d) ↔ docs id = some d
  inTime : ∀ id log, (r.store.fetch id log).1 ≠ .error .outOfSteps

/-- A store that looks at the address alone serves what it has there. -/
theorem serves_new {s : InputStore} (hs : ∀ backing, s.backing = some backing → ∀ log id,
    backing log id = backing [] id ∧ backing log id ≠ .error .outOfSteps) (log : List DocumentId) :
    (Resolver.new s log).Serves s.documents := by
  have hfetch : ∀ id log, (s.fetch id log).1 = (s.fetch id []).1 ∧
      (s.fetch id log).1 ≠ .error .outOfSteps := by
    intro id log
    unfold InputStore.fetch
    rcases s.texts.get? id with _ | text
    · rcases hb : s.backing with _ | backing
      · exact ⟨rfl, nofun⟩
      · exact hs backing hb log id
    · refine ⟨rfl, ?_⟩
      change (Schema.parse id text).map some ≠ .error .outOfSteps
      have hne := Schema.parse_ne id text
      generalize Schema.parse id text = parsed at hne ⊢
      rcases parsed with e | d
      · exact Action.error_ne hne
      · exact nofun
  refine ⟨nofun, fun id log d => ?_, fun id log => (hfetch id log).2⟩
  change (s.fetch id log).1 = _ ↔ (s.fetch id []).1.toOption.join = some d
  rw [(hfetch id log).1]
  rcases (s.fetch id []).1 with e | _ | d'
  · exact ⟨nofun, nofun⟩
  · exact ⟨nofun, nofun⟩
  · exact ⟨fun h => Except.ok.inj h, fun h => congrArg _ h⟩

/-- An action gives what is expected, or fails where nothing is. -/
inductive Reply (docs : Documents) (r : Resolver) {α : Type} (expected : Option α) :
    Except SchemaError α × Resolver → Prop
  | ok {a r'} : expected = some a → r'.Serves docs → r'.store = r.store →
      Reply docs r expected (.ok a, r')
  | error {e r'} : expected = none → r.store.Plain e → r'.Serves docs → r'.store = r.store →
      Reply docs r expected (.error e, r')

variable {docs : Documents} {r : Resolver}

theorem Reply.serves {α : Type} {expected : Option α} {result : Except SchemaError α × Resolver}
    (h : Reply docs r expected result) : result.2.Serves docs := by
  cases h <;> assumption

theorem Reply.exists_ok {α : Type} {a : α} {result : Except SchemaError α × Resolver}
    (h : Reply docs r (some a) result) : ∃ r', r'.Serves docs ∧ result = (.ok a, r') := by
  cases h with
  | ok he hserves =>
    cases he
    exact ⟨_, hserves, rfl⟩
  | error he => cases he

theorem Reply.bind {α β : Type} {x : Resolve α} {f : α → Resolve β} {a : Option α}
    {b : α → Option β} (hx : Reply docs r a (x r))
    (hf : ∀ v r', r'.Serves docs → Reply docs r' (b v) (f v r')) :
    Reply docs r (a.bind b) ((x >>= f) r) := by
  rcases h : x r with ⟨e | v, r₁⟩ <;> rw [h] at hx
  · rw [Action.bind_error h]
    rcases hx with _ | ⟨hnone, hplain, hserves, hstore⟩
    exact .error (by rw [hnone]; rfl) hplain hserves hstore
  · rw [Action.bind_ok h]
    rcases hx with ⟨hsome, hserves, hstore⟩
    rw [hsome, Option.bind_some]
    have hreply := hf v r₁ hserves
    generalize f v r₁ = result at hreply
    rcases hreply with ⟨hb, hs, he⟩ | ⟨hb, hplain, hs, he⟩
    · exact .ok hb hs (he.trans hstore)
    · exact .error hb (hstore ▸ hplain) hs (he.trans hstore)

theorem reply_ofExcept (hr : r.Serves docs) {α : Type} {x : Except SchemaError α}
    (hx : ∀ e, x = .error e → r.store.Plain e) :
    Reply docs r x.toOption ((liftM x : Resolve α) r) := by
  rw [ofExcept_apply]
  rcases x with e | a
  · exact .error rfl (hx e rfl) hr rfl
  · exact .ok rfl hr rfl

theorem reply_document (hr : r.Serves docs) (id : DocumentId) :
    Reply docs r (docs id) (document id r) := by
  rcases hk : r.known id with _ | d
  · have hfetched := hr.fetched id r.log
    have hintime := hr.inTime id r.log
    rw [document_of_unknown hk]
    rcases hf : r.store.fetch id r.log with ⟨e | _ | d, log⟩ <;>
      simp only [hf] at hfetched hintime ⊢
    · refine .error ?_ ⟨fun he => hintime (by rw [he]), fun _ _ => ⟨id, r.log, by rw [hf]⟩⟩
        ⟨hr.known, hr.fetched, hr.inTime⟩ rfl
      exact Option.eq_none_iff_forall_ne_some.2 fun d hd => nomatch (hfetched d).2 hd
    · refine .error ?_ ⟨nofun, nofun⟩ ⟨hr.known, hr.fetched, hr.inTime⟩ rfl
      exact Option.eq_none_iff_forall_ne_some.2 fun d hd => nomatch (hfetched d).2 hd
    · have hd := (hfetched d).1 rfl
      refine .ok hd ⟨fun id' d' h => ?_, hr.fetched, hr.inTime⟩ rfl
      rw [known, Entries.get?_put] at h
      split_ifs at h with he
      · cases h
        exact he ▸ hd
      · exact hr.known id' d' h
  · rw [document_of_known hk]
    exact .ok (hr.known id d hk) hr rfl

theorem plain_of_lookup {s : InputStore} {d : Json} {l : Location} {e : SchemaError}
    (h : lookup d l = .error e) : s.Plain e := by
  unfold lookup at h
  rcases hf : d.follow l.path with _ | _ <;> rw [hf] at h <;> cases h
  exact ⟨nofun, nofun⟩

theorem plain_of_locate {s : InputStore} {uri : SchemaUri} {d : Json} {e : SchemaError}
    (h : locate uri d = .error e) : s.Plain e := by
  unfold locate at h
  split at h
  · cases h
  · split at h
    · cases h
    · split at h <;> cases h
      exact ⟨nofun, nofun⟩

theorem reply_schemaAt (hr : r.Serves docs) (l : Location) :
    Reply docs r (docs.schemaAt? l) (schemaAt l r) :=
  (reply_document hr l.document).bind fun _ _ hr' => reply_ofExcept hr' fun _ => plain_of_lookup

theorem document_of_locate {uri : SchemaUri} {d : Json} {l : Location}
    (h : locate uri d = .ok l) : l.document = uri.document := by
  unfold locate at h
  split at h
  · cases h
    rfl
  · split at h
    · cases h
      rfl
    · split at h <;> cases h
      rfl

theorem reply_resolve (hr : r.Serves docs) (uri : SchemaUri) :
    Reply docs r ((docs.locate? uri).filter fun l => (docs.schemaAt? l).isSome)
      (resolve uri r) := by
  have hexpected : ((docs.locate? uri).filter fun l => (docs.schemaAt? l).isSome) =
      (docs uri.document).bind fun d => (locate uri d).toOption.bind fun l =>
        (lookup d l).toOption.bind fun _ => some l := by
    unfold Documents.locate?
    rcases hd : docs uri.document with _ | d
    · rfl
    · rcases hl : locate uri d with e | l <;> simp only [Option.bind_some, hl]
      · rfl
      · have hschema : docs.schemaAt? l = (lookup d l).toOption := by
          rw [Documents.schemaAt?, document_of_locate hl, hd]
          rfl
        change (if (docs.schemaAt? l).isSome then some l else none) =
          (lookup d l).toOption.bind fun _ => some l
        rw [hschema]
        rcases lookup d l with e | v <;> rfl
  rw [hexpected]
  exact (reply_document hr uri.document).bind fun _ _ hr' =>
    (reply_ofExcept hr' fun _ => plain_of_locate).bind fun _ _ hr' =>
      (reply_ofExcept hr' fun _ => plain_of_lookup).bind fun _ _ hr' => .ok rfl hr' rfl

end Resolver

/-! ## Following aliases -/

namespace Materialize

open Documents Resolver

variable {docs : Documents}

/-- How following aliases ends, and what that says about the chain. -/
inductive Ends (docs : Documents) (store : InputStore) (l : Location) :
    Except SchemaError Location → Prop
  | target {l'} : docs.Leads l l' → Ends docs store l (.ok l')
  | circle {at_} : docs.Revisits l → Ends docs store l (.error (.circularReference at_))
  | broken {e} : docs.Breaks l → store.Plain e → Ends docs store l (.error e)
  | outOfSteps : Ends docs store l (.error .outOfSteps)

theorem Ends.of_refers {store : InputStore} {l l' : Location}
    {outcome : Except SchemaError Location} (hl : docs.Refers l l')
    (h : Ends docs store l' outcome) : Ends docs store l outcome := by
  cases h with
  | target h =>
    obtain ⟨v, reference, hv, hr, ht⟩ := hl
    exact .target (.there hv hr ht h)
  | circle h =>
    obtain ⟨x, hx, hcycle⟩ := h
    exact .circle ⟨x, .head hl hx, hcycle⟩
  | broken h hplain =>
    obtain ⟨x, hx, hend⟩ := h
    exact .broken ⟨x, .head hl hx, hend⟩ hplain
  | outOfSteps => exact .outOfSteps

theorem refers_of_resolve {l l' : Location} {v : Json} {reference : String}
    (hv : docs.schemaAt? l = some v) (hr : reference? v = some reference)
    (h : ((docs.locate? (l.document.resolve reference)).filter
      fun l => (docs.schemaAt? l).isSome) = some l') : docs.Refers l l' :=
  ⟨v, reference, hv, hr, Option.eq_some_of_filter_eq_some h⟩

theorem breaks_of_resolve {l : Location} {v : Json} {reference : String}
    (hv : docs.schemaAt? l = some v) (hr : reference? v = some reference)
    (h : ((docs.locate? (l.document.resolve reference)).filter
      fun l => (docs.schemaAt? l).isSome) = none) : docs.Breaks l := by
  rcases hl : docs.locate? (l.document.resolve reference) with _ | l'
  · refine ⟨l, .refl, .inr ⟨⟨v, reference, hv, hr⟩, ?_⟩⟩
    rintro y ⟨w, reference', hw, hr', hy⟩
    cases hv.symm.trans hw
    cases hr.symm.trans hr'
    cases hl.symm.trans hy
  · refine ⟨l', .single ⟨v, reference, hv, hr, hl⟩, .inl ?_⟩
    rw [hl] at h
    simpa [Option.filter] using h

/-- What following aliases does at one location: it ends there, or goes on at the next one. -/
inductive Stepped (docs : Documents) (steps : Nat) (passed : List Location) (l : Location)
    (r : Resolver) : Except SchemaError Location × Resolver → Prop
  | broken {e r'} : docs.Breaks l → r.store.Plain e → r'.Serves docs → r'.store = r.store →
      Stepped docs steps passed l r (.error e, r')
  | target {r'} : docs.Leads l l → r'.Serves docs → r'.store = r.store →
      Stepped docs steps passed l r (.ok l, r')
  | circle {at_ r'} : l ∈ passed → r'.Serves docs → r'.store = r.store →
      Stepped docs steps passed l r (.error (.circularReference at_), r')
  | next {l' r'} : docs.Refers l l' → l ∉ passed → r'.Serves docs → r'.store = r.store →
      Stepped docs steps passed l r (followAliases steps (l :: passed) l' r')

theorem followAliases_stepped {r : Resolver} (hr : r.Serves docs) (steps : Nat)
    (passed : List Location) (l : Location) :
    Stepped docs steps passed l r (followAliases (steps + 1) passed l r) := by
  have hschema := reply_schemaAt hr l
  rcases hs : Resolver.schemaAt l r with ⟨e | v, r₁⟩ <;> rw [hs] at hschema
  · rw [followAliases, Action.bind_error hs]
    rcases hschema with _ | ⟨hnone, hplain, hserves, hstore⟩
    exact .broken ⟨l, .refl, .inl hnone⟩ hplain hserves hstore
  · rcases hschema with ⟨hv, hr₁, hstore₁⟩
    rw [followAliases, Action.bind_ok hs]
    rcases href : reference? v with _ | reference <;> simp only
    · exact .target (.here hv href) hr₁ hstore₁
    · split_ifs with hmem
      · exact .circle hmem hr₁ hstore₁
      · have htarget := reply_resolve hr₁ (l.document.resolve reference)
        rcases ht : Resolver.resolve (l.document.resolve reference) r₁ with ⟨e | l', r₂⟩ <;>
          rw [ht] at htarget
        · rw [Action.bind_error ht]
          rcases htarget with _ | ⟨hnone, hplain, hserves, hstore⟩
          exact .broken (breaks_of_resolve hv href hnone) (hstore₁ ▸ hplain) hserves
            (hstore.trans hstore₁)
        · rw [Action.bind_ok ht]
          rcases htarget with ⟨hsome, hr₂, hstore₂⟩
          exact .next (refers_of_resolve hv href hsome) hmem hr₂ (hstore₂.trans hstore₁)

theorem followAliases_ends : ∀ (steps : Nat) (passed : List Location) (l : Location)
    (r : Resolver), r.Serves docs → (∀ p ∈ passed, TransGen docs.Refers p l) →
      Ends docs r.store l (followAliases steps passed l r).1 ∧
        (followAliases steps passed l r).2.Serves docs ∧
        (followAliases steps passed l r).2.store = r.store
  | 0, _, _, r, hr, _ => ⟨.outOfSteps, hr, rfl⟩
  | steps + 1, passed, l, r, hr, hpassed => by
    have hstep := followAliases_stepped hr steps passed l
    generalize followAliases (steps + 1) passed l r = result at hstep ⊢
    cases hstep with
    | broken hbreaks hplain hserves hstore => exact ⟨.broken hbreaks hplain, hserves, hstore⟩
    | target hleads hserves hstore => exact ⟨.target hleads, hserves, hstore⟩
    | circle hmem hserves hstore => exact ⟨.circle ⟨l, .refl, hpassed l hmem⟩, hserves, hstore⟩
    | @next l' r' hrefers _ hserves hstore =>
      have hpassed' : ∀ p ∈ l :: passed, TransGen docs.Refers p l' := by
        intro p hp
        rcases List.mem_cons.1 hp with rfl | hp
        · exact .single hrefers
        · exact (hpassed p hp).tail hrefers
      obtain ⟨hends, hserves', hstore'⟩ :=
        followAliases_ends steps (l :: passed) l' r' hserves hpassed'
      rw [hstore] at hends hstore'
      exact ⟨hends.of_refers hrefers, hserves', hstore'⟩

/-- As many steps as there are references to meet, and one more, are enough. -/
theorem followAliases_in_time {aliases : Set Location} (hfinite : aliases.Finite) :
    ∀ (steps : Nat) (passed : List Location) (l : Location) (r : Resolver), r.Serves docs →
      (∀ x, ReflTransGen docs.Refers l x → docs.IsAlias x → x ∈ aliases) →
      passed.Nodup → (∀ p ∈ passed, p ∈ aliases) → aliases.ncard < steps + passed.length →
      (followAliases steps passed l r).1 ≠ .error .outOfSteps
  | 0, passed, _, _, _, _, hnodup, hpassed, hlt => by
    have hle := hnodup.length_le_ncard hfinite hpassed
    omega
  | steps + 1, passed, l, r, hr, hchain, hnodup, hpassed, hlt => by
    have hstep := followAliases_stepped hr steps passed l
    generalize followAliases (steps + 1) passed l r = result at hstep ⊢
    cases hstep with
    | broken _ hplain => exact fun he => hplain.1 (Except.error.inj he)
    | target => exact nofun
    | circle => exact nofun
    | @next l' r' hrefers hmem hserves _ =>
      have hpassed' : ∀ p ∈ l :: passed, p ∈ aliases := by
        intro p hp
        rcases List.mem_cons.1 hp with rfl | hp
        · exact hchain p .refl hrefers.isAlias
        · exact hpassed p hp
      have hlt' : aliases.ncard < steps + (l :: passed).length := by
        rw [List.length_cons]
        omega
      exact followAliases_in_time hfinite steps (l :: passed) l' r' hserves
        (fun x hx => hchain x (.head hrefers hx)) (List.nodup_cons.2 ⟨hmem, hnodup⟩) hpassed' hlt'

section Outcome

variable {r : Resolver} {steps : Nat} {l : Location}

/-- Aliases lead to a location exactly if it is the first one of the chain without a reference. -/
theorem followAliases_ok_iff (hr : r.Serves docs)
    (hsteps : (followAliases steps [] l r).1 ≠ .error .outOfSteps) (l' : Location) :
    (followAliases steps [] l r).1 = .ok l' ↔ docs.Leads l l' := by
  obtain ⟨hends, -, -⟩ := followAliases_ends steps [] l r hr nofun
  generalize (followAliases steps [] l r).1 = outcome at hends hsteps
  constructor
  · rintro rfl
    cases hends with
    | target h => exact h
  · intro h
    cases hends with
    | target h' => rw [h'.unique h]
    | circle h' => exact absurd h' h.not_revisits
    | broken h' _ => exact absurd h' h.not_breaks
    | outOfSteps => exact absurd rfl hsteps

theorem followAliases_of_revisits (hr : r.Serves docs)
    (hsteps : (followAliases steps [] l r).1 ≠ .error .outOfSteps) (h : docs.Revisits l) :
    ∃ at_, (followAliases steps [] l r).1 = .error (.circularReference at_) := by
  obtain ⟨hends, -, -⟩ := followAliases_ends steps [] l r hr nofun
  generalize (followAliases steps [] l r).1 = outcome at hends hsteps
  cases hends with
  | target h' => exact absurd h h'.not_revisits
  | circle _ => exact ⟨_, rfl⟩
  | broken h' _ => exact absurd h h'.not_revisits
  | outOfSteps => exact absurd rfl hsteps

/-- Only a chain that comes back is called circular, unless a store says so where the chain
breaks. -/
theorem revisits_of_followAliases (hr : r.Serves docs) {at_ : String}
    (h : (followAliases steps [] l r).1 = .error (.circularReference at_)) :
    docs.Revisits l ∨
      docs.Breaks l ∧ ∃ id log, (r.store.fetch id log).1 = .error (.circularReference at_) := by
  obtain ⟨hends, -, -⟩ := followAliases_ends steps [] l r hr nofun
  rw [h] at hends
  cases hends with
  | circle h => exact .inl h
  | broken h hplain => exact .inr ⟨h, hplain.2 at_ rfl⟩

end Outcome

end Materialize

end JsonTypes
