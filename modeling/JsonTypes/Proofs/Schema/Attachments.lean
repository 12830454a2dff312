import JsonTypes.Proofs.Graph.Lifelines
import JsonTypes.Proofs.Schema.Grounding
import JsonTypes.Proofs.Schema.Recording

/-!
# What is attached to slots

Every slot of a run belongs to a location. It is left open, or filled once, and what is attached to
it comes after the fill and is what the producers give for the schema of its location, in their
order (`Fate`). Conversions keep a graph orderly and spare what was there before (`Advances`),
whether they succeed or not (`convertTopLevels_advances`).
-/

namespace JsonTypes.Materialize

open Recorded

variable {producers : List AttributeProducer} {s s' s'' : State Recorded} {l : Location}
  {t : TypeRef}

/-- The attributes that producers give for a schema, in turn. -/
def attributesFrom (producers : List AttributeProducer) (schema : Json) (l : Location) :
    List Attributes :=
  match schema with
  | .object members => producers.filterMap fun producer => producer members l
  | _ => []

/-- What became of the slot of a location. -/
inductive Fate (producers : List AttributeProducer) (docs : Documents) (r : Recorded) (l : Location)
    (t : TypeRef) : Prop
  | opened : r.history t = [.reserve t] → Fate producers docs r l t
  | filled {schema : Json} {n : Node} : docs.schemaAt? l = some schema →
      r.history t = .reserve t :: .fill t n ::
        (attributesFrom producers schema l).map (.addAttributes t) → Fate producers docs r l t

theorem Fate.mem_history {docs : Documents} {r : Recorded} (h : Fate producers docs r l t) :
    .reserve t ∈ r.history t := by
  rcases h with h | ⟨-, h⟩ <;> rw [h] <;> exact List.mem_cons_self

theorem Fate.congr {docs docs' : Documents} {r r' : Recorded} (h : Fate producers docs r l t)
    (hd : docs.Extends docs') (hr : r'.history t = r.history t) : Fate producers docs' r' l t := by
  rcases h with h | ⟨hs, h⟩
  · exact .opened (hr.trans h)
  · exact .filled (hd.schemaAt? hs) (hr.trans h)

/-! ## Closing a slot -/

theorem produceAll_touches (slot : TypeRef) (schema : List (String × Json)) (l : Location) :
    ∀ (producers : List AttributeProducer) (r : Recorded),
      Touches slot r (produceAll producers slot schema l r).2 ∧
      (produceAll producers slot schema l r).2.history slot = r.history slot ++
        (producers.filterMap fun producer => producer schema l).map (.addAttributes slot) ∧
      (produceAll producers slot schema l r).2.graph.nodes = r.graph.nodes
  | [], r => ⟨.refl slot r, (List.append_nil _).symm, rfl⟩
  | producer :: rest, r => by
    rcases hp : producer schema l with _ | a <;> simp only [produceAll, hp, List.filterMap_cons]
    · exact produceAll_touches slot schema l rest r
    · obtain ⟨htouches, hhistory, -, hnodes⟩ := touches_addAttributes slot a r
      obtain ⟨htouches', hhistory', hnodes'⟩ :=
        produceAll_touches slot schema l rest (Sink.addAttributes slot a r).2
      refine ⟨htouches.trans htouches', hhistory'.trans ?_, hnodes'.trans hnodes⟩
      rw [hhistory, List.append_assoc]
      rfl

theorem closeSlot_touches (producers : List AttributeProducer) (slot : TypeRef) (schema : Json)
    (l : Location) (n : Node) (r : Recorded) :
    Touches slot r (closeSlot producers slot schema l n r).2 ∧
      (closeSlot producers slot schema l n r).2.history slot = r.history slot ++
        .fill slot n :: (attributesFrom producers schema l).map (.addAttributes slot) ∧
      ∀ m, (closeSlot producers slot schema l n r).2.graph.node? slot = some m → m = n := by
  obtain ⟨htouches, hhistory, hnode⟩ := touches_fill slot n r
  cases schema with
  | object members =>
    obtain ⟨htouches', hhistory', hnodes⟩ :=
      produceAll_touches slot members l producers (Sink.fill slot n r).2
    refine ⟨htouches.trans htouches', hhistory'.trans ?_, fun m hm => hnode m ?_⟩
    · rw [hhistory, List.append_assoc]
      rfl
    · exact (congrArg (·[slot]?) hnodes).symm.trans hm
  | _ => exact ⟨htouches, hhistory, hnode⟩

/-! ## Single steps -/

/-- The sink is orderly, and nodes may point at the types of all locations. -/
structure State.Orderly (s : State Recorded) : Prop where
  sink : s.sink.Orderly
  usable : ∀ l t, s.converted.get? l = some t → s.sink.Usable t

/-- What a conversion leaves: all that was there is spared, and each slot that is new belongs to a
location and has met its fate. -/
structure Advances (producers : List AttributeProducer) (s s' : State Recorded) : Prop where
  orderly : s'.Orderly
  resolver : s.resolver.Grows s'.resolver
  spares : s.sink.Spares s'.sink
  converted : ∀ l t, s.converted.get? l = some t → s'.converted.get? l = some t
  fate : ∀ l t, s'.converted.get? l = some t → s.converted.get? l = some t ∨
    s.sink.graph.size ≤ t ∧ Fate producers s'.resolver.known s'.sink l t
  reserved : ∀ t, s.sink.graph.size ≤ t → .reserve t ∈ s'.sink.history t →
    ∃ l, s'.converted.get? l = some t

namespace Advances

/-- The types of locations stay, and no slot is new. -/
theorem of_converted (hs' : s'.sink.Orderly) (hr : s.resolver.Grows s'.resolver)
    (hs : s.Orderly) (hspares : s.sink.Spares s'.sink) (hc : s'.converted = s.converted)
    (hnew : ∀ t, .reserve t ∈ s'.sink.history t → .reserve t ∈ s.sink.history t) :
    Advances producers s s' where
  orderly := ⟨hs', fun l t ht => hspares.usable (hs.usable l t (hc ▸ ht))⟩
  resolver := hr
  spares := hspares
  converted l t ht := hc ▸ ht
  fate l t ht := .inl (hc ▸ ht)
  reserved t ht hm := by
    have := hnew t hm
    rw [hs.sink.history_nil t ht] at this
    cases this

theorem resolver_only (hs : s.Orderly) {r : Resolver} (hr : s.resolver.Grows r) :
    Advances producers s { s with resolver := r } :=
  .of_converted hs.sink hr hs (.refl _) rfl fun _ h => h

theorem refl (hs : s.Orderly) : Advances producers s s := .resolver_only hs (.refl _)

theorem trans (hs : s.Orderly) (h : Advances producers s s') (h' : Advances producers s' s'') :
    Advances producers s s'' where
  orderly := h'.orderly
  resolver := h.resolver.trans h'.resolver
  spares := h.spares.trans hs.sink h'.spares
  converted l t ht := h'.converted l t (h.converted l t ht)
  fate l t ht := by
    rcases h'.fate l t ht with ht | ⟨hle, hfate⟩
    · refine (h.fate l t ht).imp_right fun ⟨hle, hfate⟩ => ⟨hle, ?_⟩
      have hlt := (h.orderly.usable l t ht).1
      have hnot : ¬s'.sink.Shared t := fun hshared => hshared.not_reserved hfate.mem_history
      exact hfate.congr h'.resolver (h'.spares.history_eq hlt hnot)
    · exact .inr ⟨Nat.le_trans h.spares.size_le hle, hfate⟩
  reserved t ht hm := by
    by_cases hlt : t < s'.sink.graph.size
    · have hm' : .reserve t ∈ s'.sink.history t := by
        rcases h'.spares.history t hlt with he | ⟨-, hshared⟩
        · exact he ▸ hm
        · exact absurd hm hshared.not_reserved
      obtain ⟨l, hl⟩ := h.reserved t ht hm'
      exact ⟨l, h'.converted l t hl⟩
    · exact h'.reserved t (Nat.not_lt.1 hlt) hm

end Advances

/-- A call that is no reservation reserves nothing. -/
theorem reserve_mem_of_concat {r r' : Recorded} {call : SinkCall} (h : r'.calls = r.calls ++ [call])
    (hcall : ∀ t, call ≠ .reserve t) (hm : .reserve t ∈ r'.history t) :
    .reserve t ∈ r.history t := by
  rw [history_concat h] at hm
  rcases List.mem_append.1 hm with hm | hm
  · exact hm
  · split_ifs at hm
    · exact absurd (List.mem_singleton.1 hm).symm (hcall t)
    · cases hm

theorem advances_intern (hs : s.Orderly) {n : Node} (hn : Over s.sink.Usable n) :
    Advances producers s { s with sink := (Sink.intern n s.sink).2 } ∧
      (Sink.intern n s.sink).2.Usable (Sink.intern n s.sink).1 := by
  obtain ⟨hr, hspares, husable, -⟩ := hs.sink.intern hn
  exact ⟨.of_converted hr (.refl _) hs hspares rfl fun t => reserve_mem_of_concat rfl nofun, husable⟩

theorem advances_addTopLevel (hs : s.Orderly) (name : String) (ht : s.sink.Usable t) :
    Advances producers s { s with sink := (Sink.addTopLevel name t s.sink).2 } := by
  obtain ⟨htouches, hhistory, -⟩ := touches_addTopLevel name t s.sink
  have hspares := htouches.spares (.inl hhistory) fun ho => absurd ho ht.2
  have hr := htouches.orderly hs.sink ht.1 (hs.sink.built.addTopLevel name t)
    (hhistory ▸ hs.sink.lifeline t ht.1) (fun h => h.congr hhistory) (own_congr hhistory)
    fun n hn => hs.sink.children t n hn
  exact .of_converted hr (.refl _) hs hspares rfl fun t => reserve_mem_of_concat rfl nofun

theorem advances_opened (hs : s.Orderly) (hl : s.converted.get? l = none) :
    Advances producers s (opened l s) := by
  have hpush := hs.sink.reserve
  have hget : ∀ l', (opened l s).converted.get? l' =
      if l = l' then some s.sink.graph.size else s.converted.get? l' := fun l' =>
    Entries.get?_put _ _ _ _
  refine ⟨⟨hpush.orderly, fun l' t ht => ?_⟩, .refl _, hpush.spares, fun l' t ht => ?_,
    fun l' t ht => ?_, fun t ht hm => ⟨l, ?_⟩⟩
  · rw [hget] at ht
    split_ifs at ht
    · cases ht
      exact hpush.usable nofun
    · exact hpush.spares.usable (hs.usable l' t ht)
  · rw [hget, if_neg fun he => ?_, ht]
    rw [← he, hl] at ht
    cases ht
  · rw [hget] at ht
    split_ifs at ht with he
    · cases ht
      exact .inr ⟨Nat.le_refl _, .opened hpush.history⟩
    · exact .inl ht
  · have hlt := hpush.size_eq ▸ hpush.orderly.lt_size (List.ne_nil_of_mem hm)
    rw [hget, if_pos rfl, Nat.le_antisymm ht (Nat.le_of_lt_succ hlt)]

/-- Until it is closed, a slot is as it was when it was opened. -/
theorem Advances.history_slot (hs : s.Orderly) (h : Advances producers (opened l s) s') :
    s.sink.graph.size < s'.sink.graph.size ∧
      s'.sink.history s.sink.graph.size = [.reserve s.sink.graph.size] := by
  have hpush := hs.sink.reserve
  have hlt : s.sink.graph.size < (opened l s).sink.graph.size :=
    Nat.lt_of_lt_of_eq (Nat.lt_succ_self _) hpush.size_eq.symm
  have hopen : (opened l s).sink.history s.sink.graph.size = [.reserve s.sink.graph.size] :=
    hpush.history
  have hnot : ¬(opened l s).sink.Shared s.sink.graph.size := fun hshared =>
    hshared.not_reserved (hopen ▸ List.mem_cons_self)
  exact ⟨Nat.lt_of_lt_of_le hlt h.spares.size_le, (h.spares.history_eq hlt hnot).trans hopen⟩

/-- No other location has the slot, since it came after all their types. -/
theorem Advances.location_of_slot (hs : s.Orderly) (h : Advances producers (opened l s) s')
    {l' : Location} (hl' : s'.converted.get? l' = some s.sink.graph.size) : l' = l := by
  rcases h.fate l' _ hl' with hopened | ⟨hle, -⟩
  · by_contra hne
    have hget : (opened l s).converted.get? l' = s.converted.get? l' :=
      (Entries.get?_put _ _ _ _).trans (if_neg (Ne.symm hne))
    exact absurd (hs.usable l' _ (hget ▸ hopened)).1 (Nat.lt_irrefl _)
  · have hsize : (opened l s).sink.graph.size = s.sink.graph.size + 1 := hs.sink.reserve.size_eq
    omega

/-- The slot of a location is filled after the conversions in between. -/
theorem Advances.closed (hs : s.Orderly) (hl : s.converted.get? l = none)
    (h : Advances producers (opened l s) s') {schema : Json} {n : Node}
    (hschema : s'.resolver.known.schemaAt? l = some schema) (hn : Over s'.sink.Usable n) :
    Advances producers s (closed producers s.sink.graph.size schema l n s') := by
  have hall := (advances_opened hs hl).trans hs h
  obtain ⟨hlt, hbefore⟩ := h.history_slot hs
  obtain ⟨htouches, hhistory, hnode⟩ :=
    closeSlot_touches producers s.sink.graph.size schema l n s'.sink
  rw [hbefore] at hhistory
  have hreserved : .reserve s.sink.graph.size ∈ s'.sink.history s.sink.graph.size :=
    hbefore ▸ List.mem_cons_self
  have hlife : Lifeline s.sink.graph.size
      ((closeSlot producers s.sink.graph.size schema l n s'.sink).2.history s.sink.graph.size) :=
    hhistory ▸ .filled
  have hown := (h.orderly.sink.lifeline _ hlt).not_own hreserved
  have hown' := hlife.not_own (hhistory ▸ List.mem_cons_self)
  have hbuilt :
      (closeSlot producers s.sink.graph.size schema l n s'.sink).2.Built fun _ _ => True := by
    refine (adds_closeSlot producers _ schema l n s'.sink).built ?_
    refine h.orderly.sink.built.fill _ n (List.mem_filterMap.2 ⟨.reserve _, ?_, rfl⟩) trivial
    exact List.mem_of_mem_filter hreserved
  have horderly := htouches.orderly h.orderly.sink hlt hbuilt hlife
    (fun h => absurd hreserved h.not_reserved) (iff_of_false hown' hown) fun m hm => hnode m hm ▸ hn
  refine ⟨⟨horderly, fun l' t ht => ?_⟩, hall.resolver,
    htouches.spares_of_le hall.spares hs.sink (Nat.le_refl _), hall.converted, fun l' t ht => ?_,
    fun t ht hm => ?_⟩
  · have husable := h.orderly.usable l' t ht
    refine ⟨htouches.size_eq.symm ▸ husable.1, ?_⟩
    by_cases he : t = s.sink.graph.size
    · exact he ▸ hown'
    · exact mt (own_congr (htouches.history t he)).1 husable.2
  · refine (hall.fate l' t ht).imp_right fun ⟨hle, hfate⟩ => ⟨hle, ?_⟩
    by_cases he : t = s.sink.graph.size
    · subst he
      cases h.location_of_slot hs ht
      exact .filled hschema hhistory
    · exact hfate.congr (fun _ _ h => h) (htouches.history t he)
  · by_cases he : t = s.sink.graph.size
    · subst he
      exact ⟨l, h.converted l _ ((Entries.get?_put _ _ _ _).trans (if_pos rfl))⟩
    · exact hall.reserved t ht (htouches.history t he ▸ hm)

/-! ## Conversions -/

/-- A way to convert locations that advances, and whose answers nodes may point at. -/
def Advancing (producers : List AttributeProducer) (convert : Location → Convert Recorded TypeRef) :
    Prop :=
  ∀ l s, s.Orderly → Advances producers s (convert l s).2 ∧
    ∀ t, (convert l s).1 = .ok t → (convert l s).2.sink.Usable t

theorem run_advances {convert : Location → Convert Recorded TypeRef}
    (hc : Advancing producers convert) (steps : Nat) {α : Type} {Q : (TypeRef → Prop) → α → Prop}
    (p : Plan α) : ∀ s : State Recorded, s.Orderly →
      (∀ P, (∀ t, s.sink.Usable t → P t) → p.DrawsOn P (Q P)) →
        Advances producers s (p.run convert steps s).2 ∧
        ∀ a, (p.run convert steps s).1 = .ok a → Q (p.run convert steps s).2.sink.Usable a := by
  induction p with
  | done a =>
    intro s hs hp
    refine ⟨.refl hs, fun b hb => ?_⟩
    cases hb
    exact hp _ fun _ h => h
  | fail e => exact fun s hs _ => ⟨.refl hs, nofun⟩
  | typeAt l next ih =>
    intro s hs hp
    obtain ⟨hadvances, hok⟩ := hc l s hs
    rw [run_typeAt]
    rcases h : convert l s with ⟨e | t, s₁⟩ <;> rw [h] at hadvances hok
    · exact ⟨hadvances, nofun⟩
    · obtain ⟨hrest, hq⟩ := ih t s₁ hadvances.orderly fun P hP =>
        hp P (fun u hu => hP u (hadvances.spares.usable hu)) t (hP t (hok t rfl))
      exact ⟨hadvances.trans hs hrest, hq⟩
  | schemaBehind l next ih =>
    intro s hs hp
    have hgrow := schemaBehind_grows steps l s.resolver
    rw [run_schemaBehind]
    rcases h : schemaBehind steps l s.resolver with ⟨e | q, r⟩ <;> rw [h] at hgrow
    · exact ⟨.resolver_only hs hgrow, nofun⟩
    · have hadvances : Advances producers s { s with resolver := r } := .resolver_only hs hgrow
      obtain ⟨hrest, hq⟩ := ih q _ hadvances.orderly fun P hP => hp P hP q
      exact ⟨hadvances.trans hs hrest, hq⟩
  | share n next ih =>
    intro s hs hp
    rw [run_share]
    obtain ⟨hadvances, husable⟩ := advances_intern hs (hp _ fun _ h => h).1
    obtain ⟨hrest, hq⟩ := ih _ _ hadvances.orderly fun P hP =>
      (hp P fun u hu => hP u (hadvances.spares.usable hu)).2 _ (hP _ husable)
    exact ⟨hadvances.trans hs hrest, hq⟩

theorem advances_start (hs : s.Orderly) {steps : Nat} {l' : Location} {r r' : Resolver}
    {outcome : Except SchemaError Json} (hf : followAliases steps [] l s.resolver = (.ok l', r))
    (hschema : Resolver.schemaAt l' r = (outcome, r')) :
    Advances producers s { s with resolver := r' } := by
  have hgrow := followAliases_grows steps [] l s.resolver
  have hgrow' := Resolver.schemaAt_grows l' r
  rw [hf] at hgrow
  rw [hschema] at hgrow'
  exact .resolver_only hs (hgrow.trans hgrow')

theorem convert_advances (producers : List AttributeProducer) : ∀ steps : Nat,
    Advancing producers (convert producers steps)
  | 0 => fun _ _ hs => ⟨.refl hs, nofun⟩
  | steps + 1 => by
    intro l s hs
    have hgrow := followAliases_grows (steps + 1) [] l s.resolver
    have hrun := fun schema l' s hs => run_advances (Q := Over) (convert_advances producers steps)
      (steps + 1) (planFor schema l') s hs fun P _ => planFor_drawsOn schema l'
    have hcases := convert_cases producers steps l s
    generalize (convert producers (steps + 1) l s).1 = outcome at hcases ⊢
    generalize (convert producers (steps + 1) l s).2 = s' at hcases ⊢
    cases hcases with
    | noTarget hf =>
      rw [hf] at hgrow
      exact ⟨.resolver_only hs hgrow, nofun⟩
    | known hf hl =>
      rw [hf] at hgrow
      refine ⟨.resolver_only hs hgrow, fun t ht => ?_⟩
      cases ht
      exact hs.usable _ _ hl
    | @noSchema l' r e r' hf hl hschema =>
      have hr : Advances producers s { s with resolver := r' } := advances_start hs hf hschema
      exact ⟨hr.trans hs (advances_opened hr.orderly hl), nofun⟩
    | @noNode l' r schema r' e s₁ hf hl hschema hp =>
      have hr : Advances producers s { s with resolver := r' } := advances_start hs hf hschema
      have hopen : Advances producers { s with resolver := r' } (opened l' { s with resolver := r' }) :=
        advances_opened hr.orderly hl
      obtain ⟨hplan, -⟩ := hrun schema l' _ hopen.orderly
      rw [hp] at hplan
      exact ⟨hr.trans hs (hopen.trans hr.orderly hplan), nofun⟩
    | @filled l' r schema r' n s₁ hf hl hschema hp =>
      have hr : Advances producers s { s with resolver := r' } := advances_start hs hf hschema
      have hopen : Advances producers { s with resolver := r' } (opened l' { s with resolver := r' }) :=
        advances_opened hr.orderly hl
      obtain ⟨hplan, hn⟩ := hrun schema l' _ hopen.orderly
      rw [hp] at hplan hn
      have hknown := Documents.Extends.schemaAt? hplan.resolver
        (Resolver.schemaAt?_of_schemaAt hschema)
      have hclosed := Advances.closed hr.orderly hl hplan hknown (hn n rfl)
      refine ⟨hr.trans hs hclosed, fun t ht => ?_⟩
      cases ht
      refine hclosed.orderly.usable l' _ (hplan.converted l' _ ?_)
      exact (Entries.get?_put _ _ _ _).trans (if_pos rfl)

/-- Whether the run succeeds or not, what was there before is spared, and the slots are those of
locations. -/
theorem convertTopLevels_advances (producers : List AttributeProducer) (steps : Nat) :
    ∀ (topLevels : List (String × Location)) (s : State Recorded), s.Orderly →
      Advances producers s (convertTopLevels producers steps topLevels s).2
  | [], _, hs => .refl hs
  | (name, l) :: rest, s, hs => by
    obtain ⟨hadvances, hok⟩ := convert_advances producers steps l s hs
    rw [convertTopLevels]
    rcases hc : convert producers steps l s with ⟨e | t, s₁⟩ <;> rw [hc] at hadvances hok
    · rw [Action.bind_error hc]
      exact hadvances
    · rw [Action.bind_ok hc]
      have hname : Advances producers s₁ { s₁ with sink := (Sink.addTopLevel name t s₁.sink).2 } :=
        advances_addTopLevel hadvances.orderly name (hok t rfl)
      exact hadvances.trans hs (hname.trans hadvances.orderly
        (convertTopLevels_advances producers steps rest _ hname.orderly))

end JsonTypes.Materialize
