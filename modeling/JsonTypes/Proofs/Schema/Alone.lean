import JsonTypes.Proofs.Schema.Aliases
import JsonTypes.Proofs.Schema.Pairing
import JsonTypes.Proofs.Schema.Soundness
import JsonTypes.Proofs.Schema.Steps

/-!
# Each top level is what it is alone

A run remembers which locations have types and shares nodes, so the graph that it builds depends on
the order of the top levels and on what was there before. The types do not: each of them unfolds
like the one that its top level gets from a run of its own (`bisimilar_alone`).

A run that has ended shows the way to one for a single location. Where it got an answer, the other
run gets one as well, and types among the answers are paired (`run_follows`, by induction over why
the plan yields its node). So the other run finds slots only for locations that have one already,
and comes to an end because those are finitely many (`convert_follows`).
-/

namespace JsonTypes.Materialize

open Documents Relation Resolver

variable {docs : Documents}

/-- Documents that were served before are served afterwards. -/
def StillServes (docs : Documents) (r r' : Resolver) : Prop := r.Serves docs → r'.Serves docs

theorem serves_kept {σ : Type} [Sink σ] (producers : List AttributeProducer) :
    KeptByConversions producers fun s s' : State σ => StillServes docs s.resolver s'.resolver where
  refl _ := id
  trans h h' := h' ∘ h
  follow steps l s hr := (followAliases_ends steps [] l s.resolver hr nofun).2.1
  lookup l _ hr := (reply_schemaAt hr l).serves
  intern _ _ := id
  opened _ _ _ := id
  closed _ _ _ _ _ := id
  addTopLevel _ _ _ := id

/-! ## Enough steps -/

section Enough

variable {S α β : Type} {s s' : S} {a : α}

/-- With enough steps, the action ends with this success. -/
def Eventually (x : Nat → Action SchemaError S α) (s : S) (a : α) (s' : S) : Prop :=
  ∃ enough, ∀ steps, enough ≤ steps → x steps s = (.ok a, s')

namespace Eventually

variable {x : Nat → Action SchemaError S α}

theorem exists_steps (h : Eventually x s a s') : ∃ steps, x steps s = (.ok a, s') :=
  h.imp fun steps h => h steps (Nat.le_refl _)

theorem of_settled (hx : ∀ {steps steps' : Nat}, steps ≤ steps' → Settles (x steps) (x steps'))
    {steps : Nat} (h : x steps s = (.ok a, s')) : Eventually x s a s' :=
  ⟨steps, fun _ hle => (hx hle s (by rw [h]; exact nofun)).trans h⟩

theorem bind {f : Nat → α → Action SchemaError S β} {b : β} {s'' : S} (h : Eventually x s a s')
    (hf : Eventually (fun steps => f steps a) s' b s'') :
    Eventually (fun steps => x steps >>= f steps) s b s'' := by
  obtain ⟨n, hn⟩ := h
  obtain ⟨m, hm⟩ := hf
  refine ⟨max n m, fun steps hle => ?_⟩
  have hx := hn steps (Nat.le_trans (Nat.le_max_left n m) hle)
  exact (Action.bind_ok hx).trans (hm steps (Nat.le_trans (Nat.le_max_right n m) hle))

theorem resolving {σ : Type} {x : Nat → Resolve α} {s : State σ} {r : Resolver}
    (h : Eventually x s.resolver a r) :
    Eventually (fun steps => resolving (x (steps + 1))) s a { s with resolver := r } :=
  h.imp fun _ hn steps hle => resolving_ok (hn (steps + 1) (Nat.le_succ_of_le hle))

end Eventually

end Enough

/-! ## Following aliases -/

section Aliases

variable {r : Resolver} {l l' : Location}

theorem followAliases_eventually (hr : r.Serves docs) (h : docs.Leads l l') :
    ∃ r', r'.Serves docs ∧ Eventually (fun steps => followAliases steps [] l) r l' r' := by
  have hne := followAliases_in_time h.finite_chain _ [] l r hr (fun x hx _ => hx) .nil nofun
    (Nat.lt_succ_self _)
  have hok := (followAliases_ok_iff hr hne l').2 h
  obtain ⟨-, hserves, -⟩ := followAliases_ends _ [] l r hr nofun
  exact ⟨_, hserves, .of_settled (fun hle => followAliases_settled hle [] l) (Prod.ext hok rfl)⟩

theorem schemaAt_ok (hr : r.Serves docs) {schema : Json} (hs : docs.schemaAt? l = some schema) :
    ∃ r', r'.Serves docs ∧ Resolver.schemaAt l r = (.ok schema, r') := by
  have hreply := reply_schemaAt hr l
  rw [hs] at hreply
  exact hreply.exists_ok

theorem schemaBehind_eventually (hr : r.Serves docs) {p : Location × Json}
    (h : docs.Leads l p.1) (hs : docs.schemaAt? p.1 = some p.2) :
    ∃ r', r'.Serves docs ∧ Eventually (fun steps => schemaBehind steps l) r p r' := by
  obtain ⟨r₁, hr₁, hf⟩ := followAliases_eventually hr h
  obtain ⟨r₂, hr₂, hschema⟩ := schemaAt_ok hr₁ hs
  exact ⟨r₂, hr₂, hf.bind ⟨0, fun _ _ => Action.bind_ok hschema⟩⟩

end Aliases

/-! ## Following a run that has ended -/

section Following

variable {producers : List AttributeProducer} {S s s' : State Graph} {isOpen : Location → Prop}
  {l : Location} {t : TypeRef}

/-- How many locations have a slot in the first state only. -/
noncomputable def missing (S s : State Graph) : Nat :=
  {l | l ∈ Entries.keys S.converted ∧ s.converted.get? l = none}.ncard

theorem finite_missing (S s : State Graph) :
    {l | l ∈ Entries.keys S.converted ∧ s.converted.get? l = none}.Finite :=
  (List.finite_toSet (Entries.keys S.converted)).subset fun _ hl => hl.1

theorem State.Grows.unconverted (h : s.Grows s') (hl : s'.converted.get? l = none) :
    s.converted.get? l = none := by
  rcases hs : s.converted.get? l with _ | t
  · rfl
  · cases hl.symm.trans (h.converted l t hs)

theorem missing_le (h : s.Grows s') : missing S s' ≤ missing S s :=
  Set.ncard_le_ncard (fun _ hl => ⟨hl.1, h.unconverted hl.2⟩) (finite_missing S s)

theorem missing_lt (h : s.Grows s') (hS : S.converted.get? l = some t)
    (hs : s.converted.get? l = none) (hs' : s'.converted.get? l ≠ none) :
    missing S s' < missing S s :=
  Set.ncard_lt_ncard ⟨fun _ hk => ⟨hk.1, h.unconverted hk.2⟩, fun hsub =>
    hs' (hsub ⟨Entries.mem_keys_iff.2 ⟨t, hS⟩, hs⟩).2⟩ (finite_missing S s)

/-- What is known of a conversion that succeeds. -/
theorem Eventually.of_convert {t' : TypeRef}
    (h : Eventually (fun steps => convert producers steps l) s t' s') (hs : Sound isOpen s)
    (hr : s.resolver.Serves docs) :
    Sound isOpen s' ∧ s.Grows s' ∧ s'.resolver.Serves docs ∧ s'.answers.type l t' := by
  obtain ⟨steps, he⟩ := h.exists_steps
  obtain ⟨hfollows, hok⟩ := convert_sound producers steps isOpen l s hs
  have hserves := (serves_kept producers).convert steps l s hr
  rw [he] at hfollows hok hserves
  obtain ⟨hs', ht'⟩ := hok t' rfl
  exact ⟨hs', hfollows.toGrows, hserves, ht'⟩

/-- Where a location has a type in the first state, a conversion succeeds, if fewer slots than the
bound are missing. -/
def Catches (producers : List AttributeProducer) (docs : Documents) (S : State Graph)
    (bound : Nat) : Prop :=
  ∀ (isOpen : Location → Prop) (l : Location) (t : TypeRef) (s : State Graph), Sound isOpen s →
    s.resolver.Serves docs → missing S s < bound → S.answers.type l t →
      ∃ t' s', Eventually (fun steps => convert producers steps l) s t' s'

/-- A plan that yields a node in the first state is carried out from the other one, and so is every
plan that is in step with it. -/
theorem run_follows {bound : Nat} (hc : Catches producers docs S bound)
    (hS : Sound (fun _ => False) S) (hdocs : S.resolver.known.Extends docs) {p : Plan Node}
    {n : Node} (hp : p.Yields S.answers n) :
    ∀ {isOpen : Location → Prop} {s : State Graph} {p' : Plan Node}, Sound isOpen s →
      s.resolver.Serves docs → missing S s < bound → InStep S s p p' →
      ∃ n' s', Eventually (fun steps => p'.run (convert producers steps) (steps + 1)) s n' s' := by
  induction hp with
  | done n =>
    intro isOpen s p' hs _ _ hstep
    obtain ⟨n', rfl⟩ := hstep.of_done (Pairs.biUnique hS hs)
    exact ⟨n', s, 0, fun _ _ => rfl⟩
  | @typeAt l next t n ht _ ih =>
    intro isOpen s p' hs hr hbound hstep
    obtain ⟨next', rfl, hnext⟩ := hstep.of_typeAt (Pairs.biUnique hS hs)
    obtain ⟨t', s₁, h₁⟩ := hc isOpen l t s hs hr hbound ht
    obtain ⟨hs₁, hgrows, hr₁, ht'⟩ := h₁.of_convert hs hr
    have hpair : Pairs S s₁ t t' := .of_type hdocs hr₁.known ht ht'
    obtain ⟨n', s', h'⟩ := ih hs₁ hr₁ (Nat.lt_of_le_of_lt (missing_le hgrows) hbound)
      (hnext s₁ t t' hgrows hpair)
    exact ⟨n', s', h₁.bind h'⟩
  | @schemaBehind l next q n hq _ ih =>
    intro isOpen s p' hs hr hbound hstep
    obtain ⟨next', rfl, hnext⟩ := hstep.of_schemaBehind (Pairs.biUnique hS hs)
    obtain ⟨r₁, hr₁, h₁⟩ := schemaBehind_eventually hr (hq.1.mono hdocs) (hdocs.schemaAt? hq.2)
    obtain ⟨steps, he⟩ := h₁.exists_steps
    have hgrows := schemaBehind_grows steps l s.resolver
    rw [he] at hgrows
    obtain ⟨n', s', h'⟩ := ih (hs.resolver hgrows) hr₁ hbound
      (hnext _ q (follows_resolver hgrows).toGrows)
    exact ⟨n', s', h₁.resolving.bind h'⟩
  | @share m next t n ht _ ih =>
    intro isOpen s p' hs hr hbound hstep
    obtain ⟨m', next', rfl, hm, hnext⟩ := hstep.of_share (Pairs.biUnique hS hs)
    have hgrows := (follows_intern (s := s) m').toGrows
    have hpair : Pairs S { s with sink := (Graph.intern m' s.sink).2 } t
        (Graph.intern m' s.sink).1 :=
      .of_shared (hm.mono fun _ _ hu => hu.mono hgrows) ht (Graph.get?_interned_intern_self m' s.sink)
    obtain ⟨n', s', h'⟩ := ih (hs.intern m') hr hbound (hnext _ t _ hgrows hpair)
    exact ⟨n', s', h'⟩

theorem convert_follows (producers : List AttributeProducer) (hS : Sound (fun _ => False) S)
    (hdocs : S.resolver.known.Extends docs) : ∀ bound : Nat, Catches producers docs S bound
  | 0 => fun _ _ _ _ _ _ hbound => absurd hbound (Nat.not_lt_zero _)
  | bound + 1 => by
    intro isOpen l t s hs hr hbound ht
    obtain ⟨l', hl, hc⟩ := ht
    obtain ⟨r₁, hr₁, enough, hf⟩ := followAliases_eventually hr (hl.mono hdocs)
    beta_reduce at hf
    rcases hnew : s.converted.get? l' with _ | t'
    · obtain ⟨schema, n, hschema, hy, -⟩ := (hS.done l' t hc).resolve_left id
      obtain ⟨r₂, hr₂, hat⟩ := schemaAt_ok hr₁ (hdocs.schemaAt? hschema)
      obtain ⟨hfollows, hs₁⟩ := hs.start (hf enough (Nat.le_refl _)) hnew hat
      -- The slot is not missing any more, so the plan has a smaller bound for what it asks.
      have hlt := missing_lt hfollows.toGrows hc hnew (by simp [get?_converted_opened])
      obtain ⟨n', s', enough', hrun⟩ := run_follows (convert_follows producers hS hdocs bound) hS
        hdocs hy hs₁ hr₂ (Nat.lt_of_lt_of_le hlt (Nat.le_of_lt_succ hbound))
        (planFor_inStep S _ schema l')
      refine ⟨s.sink.size, closed producers s.sink.size schema l' n' s', max enough enough' + 1,
        fun steps hle => ?_⟩
      obtain ⟨k, rfl⟩ : ∃ k, steps = k + 1 := ⟨steps - 1, by omega⟩
      beta_reduce at hrun ⊢
      rw [convert_eq_convertNew (hf (k + 1) (by omega)) hnew,
        convertNew_of_schema producers _ hat, hrun k (by omega)]
      rfl
    · refine ⟨t', { s with resolver := r₁ }, enough + 1, fun steps hle => ?_⟩
      obtain ⟨k, rfl⟩ : ∃ k, steps = k + 1 := ⟨steps - 1, by omega⟩
      exact convert_of_known (hf (k + 1) (by omega)) hnew

end Following

/-! ## Top levels -/

/-- If a run succeeds, then so does a run for one of its top levels alone, given enough steps, with
a new resolver and into an empty graph. Both give the top level a type, and the types unfold
alike. -/
theorem bisimilar_alone {producers : List AttributeProducer} {steps : Nat}
    {topLevels : List (String × Location)} {r r' : Resolver} {g g' : Graph} (hr : r.Serves docs)
    (hg : g.Reachable) (hnames : (topLevels.map (·.1)).Nodup)
    (h : run steps producers topLevels r g = (.ok (), r', g')) {name : String} {l : Location}
    (hl : (name, l) ∈ topLevels) :
    ∃ t t' r₁ g₁, g'.topLevel? name = some t ∧ g₁.topLevel? name = some t' ∧
      g'.Bisimilar g₁ t t' ∧
      (∃ enough, ∀ steps₁, enough ≤ steps₁ →
        run steps₁ producers [(name, l)] (.new r.store []) .empty = (.ok (), r₁, g₁)) ∧
      ∀ steps₁,
        (run steps₁ producers [(name, l)] (.new r.store []) .empty).1 ≠ .error .outOfSteps →
          run steps₁ producers [(name, l)] (.new r.store []) .empty = (.ok (), r₁, g₁) := by
  have hstart : Sound (fun _ => False) ⟨r, g, []⟩ := ⟨hg.exact, nofun, nofun, nofun, nofun⟩
  have hstart' : Sound (fun _ => False) ⟨.new r.store [], .empty, []⟩ :=
    ⟨nofun, nofun, nofun, nofun, nofun⟩
  have hnew : (Resolver.new r.store []).Serves docs := ⟨nofun, hr.fetched, hr.inTime⟩
  unfold run runInto at h
  rcases hc : convertTopLevels producers steps topLevels ⟨r, g, []⟩ with ⟨outcome, S⟩
  rw [hc] at h
  cases h
  obtain ⟨-, hS, -, hnamed⟩ := convertTopLevels_sound topLevels hstart hnames hc
  have hserved := (serves_kept producers).convertTopLevels steps topLevels ⟨r, g, []⟩ hr
  rw [hc] at hserved
  obtain ⟨t, ht, htype⟩ := hnamed name l hl
  obtain ⟨t', s, halone⟩ := convert_follows producers hS hserved.known _ _ l t _ hstart' hnew
    (Nat.lt_succ_self _) htype
  obtain ⟨hs, -, hserves, htype'⟩ := halone.of_convert hstart' hnew
  have hrun : ∃ enough, ∀ steps₁, enough ≤ steps₁ →
      run steps₁ producers [(name, l)] (.new r.store []) .empty =
        (.ok (), s.resolver, (Graph.addTopLevel name t' s.sink).2) := by
    refine halone.imp fun enough henough steps₁ hle => ?_
    have hconvert : convert producers steps₁ l ⟨.new r.store [], .empty, []⟩ = (.ok t', s) :=
      henough steps₁ hle
    rw [run, runInto, convertTopLevels_cons, hconvert]
    rfl
  refine ⟨t, t', s.resolver, _, ht, ?_, ?_, hrun, fun steps₁ hne => ?_⟩
  · exact (Entries.get?_put _ _ _ _).trans (if_pos rfl)
  · exact ⟨Pairs S s, Pairs.bisimulation hS hs hserved.known hserves.known,
      Pairs.of_type hserved.known hserves.known htype htype'⟩
  · -- The greater of both numbers of steps changes neither run.
    obtain ⟨enough, henough⟩ := hrun
    have hsettled := convertTopLevels_settled (σ := Graph) producers
      (Nat.le_max_left steps₁ enough) [(name, l)] ⟨.new r.store [], .empty, []⟩ hne
    rw [← henough _ (Nat.le_max_right steps₁ enough), run, runInto, run, runInto, hsettled]

/-- The days of diaries before the diaries, into a graph that has a node already. -/
def daysRun : Except SchemaError Unit × Resolver × Graph :=
  run 8 [] [("Day", (diaryRoot.push "properties").push "day"), ("Diary", diaryRoot)] diaryResolver
    (Graph.intern .null .empty).2

/-- Diaries come third there and first alone, and the two types unfold alike. -/
theorem bisimilar_alone_diary :
    daysRun.1 = .ok () ∧ diaryRun.1 = .ok () ∧ daysRun.2.2.topLevel? "Diary" = some 2 ∧
      diaryRun.2.2.topLevel? "Diary" = some 0 ∧ daysRun.2.2.Bisimilar diaryRun.2.2 2 0 := by
  have hok : daysRun.1 = .ok () := by decide +kernel
  have halone : diaryRun.1 = .ok () := by decide +kernel
  have hthird : daysRun.2.2.topLevel? "Diary" = some 2 := by decide +kernel
  have hfirst : diaryRun.2.2.topLevel? "Diary" = some 0 := by decide +kernel
  have hserves : diaryResolver.Serves diaryResolver.store.documents :=
    serves_new (fun backing hb log id => by cases hb; exact ⟨rfl, nofun⟩) []
  have hreachable : (Graph.intern .null .empty).2.Reachable :=
    ⟨_, Recorded.Built.intern .null .empty trivial⟩
  have hrun : run 8 [] [("Day", (diaryRoot.push "properties").push "day"), ("Diary", diaryRoot)]
      diaryResolver (Graph.intern .null .empty).2 = (.ok (), daysRun.2.1, daysRun.2.2) :=
    Prod.ext hok (Prod.eta daysRun.2).symm
  obtain ⟨t, t', r₁, g₁, ht, ht', hb, -, hsame⟩ := bisimilar_alone hserves hreachable (by decide)
    hrun (List.mem_cons_of_mem _ (List.mem_singleton.2 rfl))
  have hends : diaryRun.1 ≠ .error .outOfSteps := halone ▸ nofun
  have hself : diaryRun = (.ok (), r₁, g₁) := hsame 8 hends
  rw [hself] at hfirst ⊢
  cases hthird.symm.trans ht
  cases hfirst.symm.trans ht'
  exact ⟨hok, rfl, hthird, hfirst, hb⟩

end JsonTypes.Materialize
