import JsonTypes.Proofs.Schema.Aliases
import JsonTypes.Proofs.Schema.Asks
import JsonTypes.Proofs.Schema.Steps

/-!
# Runs come to an end

A run over finitely many documents only comes to finitely many locations. Those that have no slot
yet are its room (`room`): a conversion that goes on inwards opens a slot first and so has less
room, and the references that it follows stand at locations without slots. So a run that is given
more steps than there are locations does not run out of them (`runInto_ends`).
-/

namespace JsonTypes.Materialize

open Documents Resolver

variable {σ : Type} {docs : Documents} {starts : List Location}

/-! ## Room -/

/-- The resolver serves the documents, and only reachable locations without a reference have a
slot. -/
structure InRegion (docs : Documents) (starts : List Location) (s : State σ) : Prop where
  serves : s.resolver.Serves docs
  nodup : (Entries.keys s.converted).Nodup
  slots : ∀ l ∈ Entries.keys s.converted, docs.Reachable starts l ∧ ¬docs.IsAlias l

/-- How many reachable locations have no slot. -/
noncomputable def room (docs : Documents) (starts : List Location) (s : State σ) : Nat :=
  ({l | docs.Reachable starts l} \ {l | l ∈ Entries.keys s.converted}).ncard

theorem room_le (hfinite : {l | docs.Reachable starts l}.Finite) {s s' : State σ}
    (h : ∀ l ∈ Entries.keys s.converted, l ∈ Entries.keys s'.converted) :
    room docs starts s' ≤ room docs starts s :=
  Set.ncard_le_ncard (Set.sdiff_subset_sdiff_right h) hfinite.sdiff

theorem room_lt (hfinite : {l | docs.Reachable starts l}.Finite) {s s' : State σ}
    (h : ∀ l ∈ Entries.keys s.converted, l ∈ Entries.keys s'.converted) {l : Location}
    (hl : docs.Reachable starts l) (hs : l ∉ Entries.keys s.converted)
    (hs' : l ∈ Entries.keys s'.converted) : room docs starts s' < room docs starts s :=
  Set.ncard_lt_ncard ⟨Set.sdiff_subset_sdiff_right h, fun hsub => (hsub ⟨hl, hs⟩).2 hs'⟩
    hfinite.sdiff

theorem InRegion.length_le (hfinite : {l | docs.Reachable starts l}.Finite) {s : State σ}
    (h : InRegion docs starts s) : s.converted.length ≤ {l | docs.Reachable starts l}.ncard := by
  have hlength : s.converted.length = (Entries.keys s.converted).length := by simp [Entries.keys]
  rw [hlength]
  exact h.nodup.length_le_ncard hfinite fun l hl => (h.slots l hl).1

/-- The references that can be met stand where no slot is. -/
theorem InRegion.aliases_le (hfinite : {l | docs.Reachable starts l}.Finite) {s : State σ}
    (h : InRegion docs starts s) :
    {l | docs.Reachable starts l ∧ docs.IsAlias l}.ncard ≤ room docs starts s :=
  Set.ncard_le_ncard (fun l hl => ⟨hl.1, fun hmem => (h.slots l hmem).2 hl.2⟩) hfinite.sdiff

theorem reachable_of_reaches {l l' : Location} (hl : docs.Reachable starts l)
    (h : Relation.ReflTransGen docs.Refers l l') : docs.Reachable starts l' := by
  induction h with
  | refl => exact hl
  | tail _ hstep ih =>
    obtain ⟨v, reference, hv, hr, ht⟩ := hstep
    exact ih.target hv hr ht

theorem InRegion.followAliases_ne (hfinite : {l | docs.Reachable starts l}.Finite) {s : State σ}
    (h : InRegion docs starts s) {l : Location} (hl : docs.Reachable starts l) (steps : Nat)
    (hsteps : room docs starts s < steps) :
    (followAliases steps [] l s.resolver).1 ≠ .error .outOfSteps := by
  have hlt := Nat.lt_of_le_of_lt (h.aliases_le hfinite) hsteps
  have haliases : {l | docs.Reachable starts l ∧ docs.IsAlias l}.Finite :=
    hfinite.subset fun l hl => hl.1
  exact followAliases_in_time haliases steps [] l s.resolver h.serves
    (fun x hx halias => ⟨reachable_of_reaches hl hx, halias⟩) .nil nofun hlt

theorem InRegion.schemaBehind (hfinite : {l | docs.Reachable starts l}.Finite) {s : State σ}
    (h : InRegion docs starts s) {l : Location} (hl : docs.Reachable starts l) (steps : Nat) :
    (Materialize.schemaBehind steps l s.resolver).2.Serves docs ∧
      (∀ p, (Materialize.schemaBehind steps l s.resolver).1 = .ok p →
        docs.Reachable starts p.1 ∧ docs.schemaAt? p.1 = some p.2) ∧
      (room docs starts s < steps →
        (Materialize.schemaBehind steps l s.resolver).1 ≠ .error .outOfSteps) := by
  have hends := followAliases_ends steps [] l s.resolver h.serves nofun
  have htime := h.followAliases_ne hfinite hl steps
  unfold Materialize.schemaBehind
  rcases hf : followAliases steps [] l s.resolver with ⟨e | l', r⟩ <;> rw [hf] at hends htime
  · rw [Action.bind_error hf]
    exact ⟨hends.2.1, nofun, fun hlt => Action.error_ne (htime hlt)⟩
  · obtain ⟨htarget, hr, -⟩ := hends
    have hschema := reply_schemaAt hr l'
    rw [Action.bind_ok hf]
    rcases hs : Resolver.schemaAt l' r with ⟨e | v, r'⟩ <;> rw [hs] at hschema
    · rw [Action.bind_error hs]
      rcases hschema with _ | ⟨-, hplain, hr', -⟩
      exact ⟨hr', nofun, fun _ he => hplain.1 (Except.error.inj he)⟩
    · rw [Action.bind_ok hs]
      rcases hschema with ⟨hv, hr', -⟩
      refine ⟨hr', ?_, fun _ => nofun⟩
      rintro p hp
      cases hp
      cases htarget with
      | target hleads => exact ⟨reachable_of_leads hl hleads, hv⟩

theorem InRegion.resolver {s : State σ} (h : InRegion docs starts s) {r : Resolver}
    (hr : r.Serves docs) : InRegion docs starts { s with resolver := r } :=
  ⟨hr, h.nodup, h.slots⟩

theorem InRegion.sink {s : State σ} (h : InRegion docs starts s) (sink : σ) :
    InRegion docs starts { s with sink := sink } :=
  ⟨h.serves, h.nodup, h.slots⟩

theorem InRegion.start {r : Resolver} (hr : r.Serves docs) (sink : σ) :
    InRegion docs starts ⟨r, sink, []⟩ :=
  ⟨hr, .nil, nofun⟩

theorem room_start (hfinite : {l | docs.Reachable starts l}.Finite) (r : Resolver) (sink : σ) :
    room docs starts (⟨r, sink, []⟩ : State σ) ≤ {l | docs.Reachable starts l}.ncard :=
  Set.ncard_le_ncard Set.sdiff_subset hfinite

variable [Sink σ]

theorem mem_keys_opened {l l' : Location} {s : State σ} :
    l' ∈ Entries.keys (opened l s).converted ↔ l' = l ∨ l' ∈ Entries.keys s.converted :=
  Entries.mem_keys_put _ _ _ _

theorem InRegion.afterOpening {s : State σ} (h : InRegion docs starts s) {l : Location}
    (hl : docs.Reachable starts l) (halias : ¬docs.IsAlias l) :
    InRegion docs starts (opened l s) where
  serves := h.serves
  nodup := Entries.nodup_keys_put h.nodup _ _
  slots l' hl' := by
    rcases mem_keys_opened.1 hl' with rfl | hl'
    · exact ⟨hl, halias⟩
    · exact h.slots l' hl'

/-! ## Enough steps -/

/-- A way to convert locations that stays in the region, and has enough steps where there are more
of them than room. -/
def InTime (docs : Documents) (starts : List Location) (steps : Nat)
    (convert : Location → Convert σ TypeRef) : Prop :=
  ∀ (l : Location) (s : State σ), docs.Reachable starts l → InRegion docs starts s →
    InRegion docs starts (convert l s).2 ∧
      (∀ l' ∈ Entries.keys s.converted, l' ∈ Entries.keys (convert l s).2.converted) ∧
      (room docs starts s < steps → (convert l s).1 ≠ .error .outOfSteps)

theorem run_in_time (hfinite : {l | docs.Reachable starts l}.Finite) {steps : Nat}
    (aliasSteps : Nat) {convert : Location → Convert σ TypeRef}
    (hc : InTime docs starts steps convert) {α : Type} {wanted : α → Prop} (p : Plan α)
    (hp : p.Within docs (docs.Reachable starts) wanted) :
    ∀ s : State σ, InRegion docs starts s →
      InRegion docs starts (p.run convert aliasSteps s).2 ∧
        (∀ l ∈ Entries.keys s.converted,
          l ∈ Entries.keys (p.run convert aliasSteps s).2.converted) ∧
        (room docs starts s < steps → room docs starts s < aliasSteps →
          (p.run convert aliasSteps s).1 ≠ .error .outOfSteps) := by
  induction p with
  | done a => exact fun s hs => ⟨hs, fun _ hl => hl, fun _ _ => nofun⟩
  | fail e => exact fun s hs => ⟨hs, fun _ hl => hl, fun _ _ he => hp (Except.error.inj he)⟩
  | typeAt l next ih =>
    intro s hs
    obtain ⟨hregion, hkeys, htime⟩ := hc l s hp.1 hs
    rw [run_typeAt]
    rcases h : convert l s with ⟨e | t, s₁⟩ <;> rw [h] at hregion hkeys htime
    · exact ⟨hregion, hkeys, fun hlt _ => Action.error_ne (htime hlt)⟩
    · obtain ⟨hregion', hkeys', htime'⟩ := ih t (hp.2 t) s₁ hregion
      have hle := room_le (s := s) hfinite hkeys
      exact ⟨hregion', fun l' hl' => hkeys' l' (hkeys l' hl'), fun hlt hlt' =>
        htime' (Nat.lt_of_le_of_lt hle hlt) (Nat.lt_of_le_of_lt hle hlt')⟩
  | schemaBehind l next ih =>
    intro s hs
    obtain ⟨hr, hfound, htime⟩ := hs.schemaBehind hfinite hp.1 aliasSteps
    rw [run_schemaBehind]
    rcases h : Materialize.schemaBehind aliasSteps l s.resolver with ⟨e | q, r⟩ <;>
      rw [h] at hr hfound htime
    · exact ⟨hs.resolver hr, fun _ hl => hl, fun _ hlt => Action.error_ne (htime hlt)⟩
    · obtain ⟨hreach, hschema⟩ := hfound q rfl
      exact ih q (hp.2 q hreach hschema) _ (hs.resolver hr)
  | share n next ih =>
    intro s hs
    rw [run_share]
    exact ih _ (hp _) _ (hs.sink _)

/-- Opening a slot at a location behind aliases leaves less room. -/
theorem InRegion.opening (hfinite : {l | docs.Reachable starts l}.Finite) {s : State σ}
    (h : InRegion docs starts s) {l l' : Location} (hl : docs.Reachable starts l) {steps : Nat}
    {r r' : Resolver} {found : Except SchemaError Json}
    (hf : followAliases steps [] l s.resolver = (.ok l', r))
    (hnew : s.converted.get? l' = none) (hs : Resolver.schemaAt l' r = (found, r')) :
    docs.Reachable starts l' ∧ docs.schemaAt? l' = found.toOption ∧
      found ≠ .error .outOfSteps ∧
      InRegion docs starts (opened l' { s with resolver := r' }) ∧
      room docs starts (opened l' { s with resolver := r' }) < room docs starts s := by
  obtain ⟨hends, hr, -⟩ := followAliases_ends steps [] l s.resolver h.serves nofun
  rw [hf] at hends hr
  cases hends with
  | target hleads =>
    have hreach := reachable_of_leads hl hleads
    obtain ⟨v, hv, href⟩ := hleads.schemaAt?
    have hschema := reply_schemaAt hr l'
    rw [hs] at hschema
    have hr' : r'.Serves docs := hschema.serves
    refine ⟨hreach, ?_, ?_, (h.resolver hr').afterOpening hreach (not_isAlias hv href), ?_⟩
    · rcases hschema with ⟨hsome, -, -⟩ | ⟨hnone, -, -, -⟩
      · exact hsome
      · exact hnone
    · rcases hschema with _ | ⟨-, hplain, -, -⟩
      · exact nofun
      · exact fun he => hplain.1 (Except.error.inj he)
    · exact room_lt hfinite (fun k hk => mem_keys_opened.2 (.inr hk)) hreach
        (Entries.get?_eq_none_iff.1 hnew) (mem_keys_opened.2 (.inl rfl))

theorem convert_in_time (hfinite : {l | docs.Reachable starts l}.Finite)
    (producers : List AttributeProducer) :
    ∀ steps, InTime docs starts steps (convert (σ := σ) producers steps)
  | 0, _, _, _, hs => ⟨hs, fun _ hk => hk, fun hlt => absurd hlt (Nat.not_lt_zero _)⟩
  | steps + 1, l, s, hl, hs => by
    have hc := convert_cases producers steps l s
    have hends := followAliases_ends (steps + 1) [] l s.resolver hs.serves nofun
    have htime := hs.followAliases_ne hfinite hl (steps + 1)
    have hrun := fun {schema : Json} {l'} (hl' : docs.Reachable starts l')
        (hv : docs.schemaAt? l' = some schema) => run_in_time hfinite (steps + 1)
      (convert_in_time hfinite producers steps) (planFor schema l') (planFor_within hl' hv)
    generalize (convert producers (steps + 1) l s).1 = outcome at hc ⊢
    generalize (convert producers (steps + 1) l s).2 = s' at hc ⊢
    cases hc with
    | noTarget hf =>
      rw [hf] at hends htime
      exact ⟨hs.resolver hends.2.1, fun _ hk => hk,
        fun hlt => Action.error_ne (htime hlt)⟩
    | known hf _ =>
      rw [hf] at hends
      exact ⟨hs.resolver hends.2.1, fun _ hk => hk, fun _ => nofun⟩
    | noSchema hf hnew hschema =>
      obtain ⟨-, -, hne, hregion, -⟩ := hs.opening hfinite hl hf hnew hschema
      exact ⟨hregion, fun k hk => mem_keys_opened.2 (.inr hk),
        fun _ => Action.error_ne hne⟩
    | noNode hf hnew hschema hp =>
      obtain ⟨hl', hv, -, hregion, hlt⟩ := hs.opening hfinite hl hf hnew hschema
      obtain ⟨hregion', hkeys, hne⟩ := hrun hl' hv _ hregion
      rw [hp] at hregion' hkeys hne
      refine ⟨hregion', fun k hk => hkeys k (mem_keys_opened.2 (.inr hk)), fun hroom => ?_⟩
      exact Action.error_ne (hne (by omega) (by omega))
    | filled hf hnew hschema hp =>
      obtain ⟨hl', hv, -, hregion, hlt⟩ := hs.opening hfinite hl hf hnew hschema
      obtain ⟨hregion', hkeys, -⟩ := hrun hl' hv _ hregion
      rw [hp] at hregion' hkeys
      exact ⟨hregion'.sink _, fun k hk => hkeys k (mem_keys_opened.2 (.inr hk)), fun _ => nofun⟩

theorem convertTopLevels_in_time (hfinite : {l | docs.Reachable starts l}.Finite)
    (producers : List AttributeProducer) (steps : Nat) : ∀ (topLevels : List (String × Location))
    (s : State σ), (∀ e ∈ topLevels, docs.Reachable starts e.2) → InRegion docs starts s →
      InRegion docs starts (convertTopLevels producers steps topLevels s).2 ∧
        (room docs starts s < steps →
          (convertTopLevels producers steps topLevels s).1 ≠ .error .outOfSteps)
  | [], s, _, hs => ⟨hs, fun _ => nofun⟩
  | (name, l) :: rest, s, hl, hs => by
    obtain ⟨hregion, hkeys, hne⟩ := convert_in_time hfinite producers steps l s
      (hl _ List.mem_cons_self) hs
    rw [convertTopLevels]
    rcases h : convert producers steps l s with ⟨e | t, s₁⟩ <;> rw [h] at hregion hkeys hne
    · rw [Action.bind_error h]
      exact ⟨hregion, fun hlt => Action.error_ne (hne hlt)⟩
    · rw [Action.bind_ok h]
      obtain ⟨hregion', hne'⟩ := convertTopLevels_in_time hfinite producers steps rest
        { s₁ with sink := (Sink.addTopLevel name t s₁.sink).2 }
        (fun e he => hl e (List.mem_cons_of_mem _ he)) (hregion.sink _)
      exact ⟨hregion', fun hlt => hne' (Nat.lt_of_le_of_lt (room_le hfinite hkeys) hlt)⟩

/-! ## Every run ends -/

/-- A run over finitely many documents ends, with success or with an error of its own, and opens at
most one slot for each location that it can come to; no conversions nest deeper, and no chain of
aliases is longer. Aliases lead to the first location of the chain without a reference if there is
one, and are called circular if the chain comes back. -/
theorem runInto_ends (hdocs : {id | ∃ d, docs id = some d}.Finite) {r : Resolver}
    (hr : r.Serves docs) (producers : List AttributeProducer)
    (topLevels : List (String × Location)) (sink : σ) :
    let region := {l | docs.Reachable (topLevels.map (·.2)) l}
    region.Finite ∧
      (∀ steps, region.ncard < steps →
        (runInto steps producers topLevels r sink).1 ≠ .error .outOfSteps ∧
          runInto steps producers topLevels r sink =
            runInto (region.ncard + 1) producers topLevels r sink) ∧
      (∀ steps, (convertTopLevels producers steps topLevels ⟨r, sink, []⟩).2.converted.length ≤
        region.ncard) ∧
      ∀ l ∈ region, ∀ steps, region.ncard < steps →
        (followAliases steps [] l r).1 ≠ .error .outOfSteps ∧
          (∀ l', (followAliases steps [] l r).1 = .ok l' ↔ docs.Leads l l') ∧
          (docs.Revisits l →
            ∃ at_, (followAliases steps [] l r).1 = .error (.circularReference at_)) ∧
          ∀ at_, (followAliases steps [] l r).1 = .error (.circularReference at_) →
            docs.Revisits l ∨ docs.Breaks l ∧
              ∃ id log, (r.store.fetch id log).1 = .error (.circularReference at_) := by
  intro region
  have hfinite : region.Finite := finite_reachable hdocs
  have hstart : InRegion docs (topLevels.map (·.2)) ⟨r, sink, []⟩ := .start hr sink
  have hroom := room_start hfinite r sink
  have hrun := fun steps => convertTopLevels_in_time hfinite producers steps topLevels _
    (fun e he => .start (List.mem_map.2 ⟨e, he, rfl⟩)) hstart
  refine ⟨hfinite, fun steps hsteps => ⟨?_, ?_⟩, fun steps => ?_, fun l hl steps hsteps => ?_⟩
  · exact (hrun steps).2 (Nat.lt_of_le_of_lt hroom hsteps)
  · have henough := (hrun (region.ncard + 1)).2 (Nat.lt_succ_of_le hroom)
    unfold runInto
    rw [convertTopLevels_settled producers hsteps topLevels _ henough]
  · exact (hrun steps).1.length_le hfinite
  · have hne := hstart.followAliases_ne hfinite hl steps (Nat.lt_of_le_of_lt hroom hsteps)
    exact ⟨hne, followAliases_ok_iff hr hne, followAliases_of_revisits hr hne,
      fun at_ => revisits_of_followAliases hr⟩

/-- Two references that mean each other, and a list whose tail is a list. -/
def ring : Json :=
  .object [("a", .object [("$ref", .string "#/b")]), ("b", .object [("$ref", .string "#/a")]),
    ("list", .object [("properties", .object [("tail", .object [("$ref", .string "#/list")])])])]

def ringRoot : Location := .root ⟨"ring"⟩

def ringStore : InputStore :=
  ⟨[], some fun _ id => .ok (if id = ⟨"ring"⟩ then some ring else none)⟩

def ringTopLevels : List (String × Location) :=
  [("List", ringRoot.push "list"), ("Ring", ringRoot.push "a")]

theorem ring_revisits : ringStore.documents.Revisits (ringRoot.push "a") := by
  have hab : ringStore.documents.Refers (ringRoot.push "a") (ringRoot.push "b") :=
    ⟨.object [("$ref", .string "#/b")], "#/b", by decide +kernel, by decide +kernel,
      by decide +kernel⟩
  have hba : ringStore.documents.Refers (ringRoot.push "b") (ringRoot.push "a") :=
    ⟨.object [("$ref", .string "#/a")], "#/a", by decide +kernel, by decide +kernel,
      by decide +kernel⟩
  exact ⟨ringRoot.push "a", .refl, .tail (.single hab) hba⟩

theorem runInto_ends_ring :
    {id | ∃ d, ringStore.documents id = some d}.Finite ∧
      (Resolver.new ringStore []).Serves ringStore.documents ∧
      ∃ n, ∀ steps, n < steps →
        (runInto steps [] ringTopLevels (.new ringStore []) Graph.empty).1 ≠ .error .outOfSteps ∧
          ∃ at_, (followAliases steps [] (ringRoot.push "a") (.new ringStore [])).1 =
            .error (.circularReference at_) := by
  have hdocs : {id | ∃ d, ringStore.documents id = some d}.Finite := by
    refine (Set.finite_singleton ⟨"ring"⟩).subset fun id hid => ?_
    obtain ⟨d, hd⟩ := hid
    by_contra hne
    change (if id = ⟨"ring"⟩ then some ring else none) = some d at hd
    rw [if_neg (show id ≠ ⟨"ring"⟩ from hne)] at hd
    cases hd
  have hserves : (Resolver.new ringStore []).Serves ringStore.documents := by
    refine serves_new (fun backing hb log id => ?_) []
    cases hb
    exact ⟨rfl, nofun⟩
  obtain ⟨-, hends, -, haliases⟩ := runInto_ends hdocs hserves [] ringTopLevels Graph.empty
  have hstart : ringRoot.push "a" ∈ ringTopLevels.map (·.2) := by decide
  refine ⟨hdocs, hserves, _, fun steps hsteps => ⟨(hends steps hsteps).1, ?_⟩⟩
  exact (haliases _ (.start hstart) steps hsteps).2.2.1 ring_revisits

end JsonTypes.Materialize
