import JsonTypes.Proofs.Graph.Recorded
import JsonTypes.Proofs.Schema.Conversion
import JsonTypes.Proofs.Schema.Yields

/-!
# Slots and their nodes

While a run lasts, some locations have a slot that is still open: those whose plans are being
carried out. Every other location that has a type is done (`Done`): its slot holds a node that the
plan of its schema yields. Conversions keep this, whatever is open around them (`convert_sound`),
so after a run that succeeds every location that has a type is done.

A conversion never touches the nodes that were there before it (`Follows`), even if it fails: it
fills the slots that it opened itself, and no others.
-/

namespace JsonTypes.Materialize

/-- The answers that a state has to the questions of plans. -/
def State.answers (s : State Graph) : Answers where
  type l t := ∃ l', s.resolver.known.Leads l l' ∧ s.converted.get? l' = some t
  schema l p := s.resolver.known.Leads l p.1 ∧ s.resolver.known.schemaAt? p.1 = some p.2
  shared n t := s.sink.interned.get? n = some t

/-- Nothing that was there before is lost. -/
structure State.Grows (s s' : State Graph) : Prop where
  resolver : s.resolver.Grows s'.resolver
  converted : ∀ l t, s.converted.get? l = some t → s'.converted.get? l = some t
  shared : ∀ n t, s.sink.interned.get? n = some t → s'.sink.interned.get? n = some t
  nodes : s.sink.Extends s'.sink

namespace State.Grows

theorem refl (s : State Graph) : s.Grows s :=
  ⟨.refl _, fun _ _ h => h, fun _ _ h => h, .refl _⟩

theorem trans {s₁ s₂ s₃ : State Graph} (h : s₁.Grows s₂) (h' : s₂.Grows s₃) : s₁.Grows s₃ where
  resolver := h.resolver.trans h'.resolver
  converted l t ht := h'.converted l t (h.converted l t ht)
  shared n t ht := h'.shared n t (h.shared n t ht)
  nodes := h.nodes.trans h'.nodes

theorem size_le {s s' : State Graph} (h : s.Grows s') : s.sink.size ≤ s'.sink.size :=
  h.nodes.size_le

theorem answers {s s' : State Graph} (h : s.Grows s') : s.answers.Extends s'.answers where
  type _ t := fun ⟨l', hl, ht⟩ => ⟨l', hl.mono h.resolver, h.converted l' t ht⟩
  schema _ _ := fun ⟨hl, hs⟩ => ⟨hl.mono h.resolver, Documents.Extends.schemaAt? h.resolver hs⟩
  shared n t := h.shared n t

end State.Grows

/-- Nothing is lost, and no top level is new. -/
structure Follows (s s' : State Graph) : Prop extends s.Grows s' where
  topLevels : s'.sink.topLevels = s.sink.topLevels

theorem Follows.refl (s : State Graph) : Follows s s := ⟨.refl s, rfl⟩

theorem Follows.trans {s₁ s₂ s₃ : State Graph} (h : Follows s₁ s₂) (h' : Follows s₂ s₃) :
    Follows s₁ s₃ :=
  ⟨h.toGrows.trans h'.toGrows, h'.topLevels.trans h.topLevels⟩

/-- The slot of a location holds a node that the plan of its schema yields. -/
def Done (s : State Graph) (l : Location) (t : TypeRef) : Prop :=
  ∃ schema n, s.resolver.known.schemaAt? l = some schema ∧
    (planFor schema l).Yields s.answers n ∧ s.sink.node? t = some n

theorem Done.mono {s s' : State Graph} (ha : s.answers.Extends s'.answers)
    (hr : s.resolver.Grows s'.resolver) {l : Location} {t : TypeRef}
    (ht : ∀ n, s.sink.node? t = some n → s'.sink.node? t = some n) (h : Done s l t) :
    Done s' l t := by
  obtain ⟨schema, n, hs, hy, hn⟩ := h
  exact ⟨schema, n, Documents.Extends.schemaAt? hr hs, hy.mono ha, ht n hn⟩

theorem State.Grows.done {s s' : State Graph} (h : s.Grows s') {l : Location} {t : TypeRef}
    (hd : Done s l t) : Done s' l t :=
  hd.mono h.answers h.resolver (h.nodes t)

/-- Slots are apart from each other and from shared nodes, and done unless they are open. -/
structure Sound (isOpen : Location → Prop) (s : State Graph) : Prop where
  exact : s.sink.Exact
  lt_size : ∀ l t, s.converted.get? l = some t → t < s.sink.size
  apart : ∀ l t n, s.converted.get? l = some t → s.sink.interned.get? n ≠ some t
  unique : ∀ l l' t, s.converted.get? l = some t → s.converted.get? l' = some t → l = l'
  done : ∀ l t, s.converted.get? l = some t → isOpen l ∨ Done s l t

variable {isOpen : Location → Prop} {s : State Graph}

/-! ## Single steps -/

theorem follows_resolver {r : Resolver} (hr : s.resolver.Grows r) :
    Follows s { s with resolver := r } :=
  ⟨⟨hr, fun _ _ h => h, fun _ _ h => h, .refl _⟩, rfl⟩

theorem Sound.resolver (h : Sound isOpen s) {r : Resolver} (hr : s.resolver.Grows r) :
    Sound isOpen { s with resolver := r } where
  exact := h.exact
  lt_size := h.lt_size
  apart := h.apart
  unique := h.unique
  done l t ht := (h.done l t ht).imp_right (follows_resolver hr).done

theorem follows_intern (n : Node) : Follows s { s with sink := (Graph.intern n s.sink).2 } where
  resolver := .refl _
  converted _ _ h := h
  shared m t ht := by
    change (Graph.intern n s.sink).2.interned.get? m = some t
    rw [Graph.get?_interned_intern, ht]
    rfl
  nodes := Graph.intern_extends n s.sink
  topLevels := by
    change (Graph.intern n s.sink).2.topLevels = _
    unfold Graph.intern
    split <;> rfl

theorem Sound.intern (h : Sound isOpen s) (n : Node) :
    Sound isOpen { s with sink := (Graph.intern n s.sink).2 } where
  exact := Graph.intern_exact h.exact
  lt_size l t ht := Nat.lt_of_lt_of_le (h.lt_size l t ht) (follows_intern n).size_le
  apart l t m ht hm := by
    change (Graph.intern n s.sink).2.interned.get? m = some t at hm
    rw [Graph.get?_interned_intern] at hm
    rcases hi : s.sink.interned.get? m with _ | t'
    · rw [hi, Option.none_or] at hm
      split_ifs at hm with he
      subst he
      rw [Graph.intern_of_none hi] at hm
      cases hm
      exact absurd (h.lt_size l _ ht) (Nat.lt_irrefl _)
    · rw [hi] at hm
      exact h.apart l t m ht (hi.trans hm)
  unique := h.unique
  done l t ht := (h.done l t ht).imp_right (follows_intern n).done

theorem follows_opened {l : Location} (hl : s.converted.get? l = none) :
    Follows s (opened l s) where
  resolver := .refl _
  converted l' t ht := by
    have hne : l ≠ l' := fun e => by
      rw [← e, hl] at ht
      cases ht
    exact (Entries.get?_put _ _ _ _).trans ((if_neg hne).trans ht)
  shared _ _ h := h
  nodes := Graph.addFresh_extends .any s.sink
  topLevels := rfl

theorem get?_converted_opened (l l' : Location) (s : State Graph) :
    (opened l s).converted.get? l' = if l = l' then some s.sink.size else s.converted.get? l' :=
  Entries.get?_put _ _ _ _

theorem Sound.afterOpening (h : Sound isOpen s) {l : Location} (hl : s.converted.get? l = none) :
    Sound (fun l' => l' = l ∨ isOpen l') (opened l s) where
  exact := Graph.addFresh_exact h.exact
  lt_size l' t ht := by
    have hsize : (opened l s).sink.size = s.sink.size + 1 := Array.size_push _
    rw [get?_converted_opened] at ht
    rw [hsize]
    split_ifs at ht
    · cases ht
      exact Nat.lt_succ_self _
    · exact Nat.lt_succ_of_lt (h.lt_size l' t ht)
  apart l' t n ht hn := by
    rw [get?_converted_opened] at ht
    split_ifs at ht
    · cases ht
      exact absurd (Graph.lt_size_of_node? (h.exact n _ hn)) (Nat.lt_irrefl _)
    · exact h.apart l' t n ht hn
  unique l₁ l₂ t h₁ h₂ := by
    rw [get?_converted_opened] at h₁ h₂
    split_ifs at h₁ h₂ with e₁ e₂ e₂
    · exact e₁.symm.trans e₂
    · cases h₁
      exact absurd (h.lt_size l₂ _ h₂) (Nat.lt_irrefl _)
    · cases h₂
      exact absurd (h.lt_size l₁ _ h₁) (Nat.lt_irrefl _)
    · exact h.unique l₁ l₂ t h₁ h₂
  done l' t ht := by
    rw [get?_converted_opened] at ht
    split_ifs at ht with e
    · exact .inl (.inl e.symm)
    · exact (h.done l' t ht).imp .inr (follows_opened hl).done

theorem produceAll_unread (slot : TypeRef) (schema : List (String × Json)) (l : Location) :
    ∀ (producers : List AttributeProducer) (g : Graph),
      (produceAll producers slot schema l g).2.nodes = g.nodes ∧
        (produceAll producers slot schema l g).2.interned = g.interned ∧
        (produceAll producers slot schema l g).2.topLevels = g.topLevels
  | [], _ => ⟨rfl, rfl, rfl⟩
  | producer :: rest, g => by
    rcases hp : producer schema l with _ | a
    · have ih := produceAll_unread slot schema l rest g
      simp only [produceAll, hp]
      exact ih
    · have ih := produceAll_unread slot schema l rest (Graph.addAttributes slot a g).2
      obtain ⟨hn, hi, ht⟩ := Graph.attributes_unread a slot g
      simp only [produceAll, hp]
      exact ⟨ih.1.trans hn, ih.2.1.trans hi, ih.2.2.trans ht⟩

/-- Closing a slot changes its node and nothing else that is asked for. -/
theorem closeSlot_sink (producers : List AttributeProducer) (slot : TypeRef) (schema : Json)
    (l : Location) (n : Node) (g : Graph) :
    (closeSlot producers slot schema l n g).2.nodes = g.nodes.setIfInBounds slot n ∧
      (closeSlot producers slot schema l n g).2.interned = g.interned ∧
      (closeSlot producers slot schema l n g).2.topLevels = g.topLevels := by
  cases schema with
  | object members => exact produceAll_unread slot members l producers (Graph.fill slot n g).2
  | _ => exact ⟨rfl, rfl, rfl⟩

theorem node?_closeSlot (producers : List AttributeProducer) (slot : TypeRef) (schema : Json)
    (l : Location) (n : Node) (g : Graph) (t : TypeRef) :
    (closeSlot producers slot schema l n g).2.node? t =
      if t = slot ∧ t < g.size then some n else g.node? t := by
  rw [Graph.node?, (closeSlot_sink producers slot schema l n g).1]
  exact Graph.node?_fill g slot n t

theorem Follows.afterClosing {s' : State Graph} (h : Follows s s') {slot : TypeRef}
    (hslot : s.sink.size ≤ slot) (producers : List AttributeProducer) (schema : Json)
    (l : Location) (n : Node) : Follows s (closed producers slot schema l n s') where
  resolver := h.resolver
  converted := h.converted
  shared m t ht := by
    change (closeSlot producers slot schema l n s'.sink).2.interned.get? m = some t
    rw [(closeSlot_sink producers slot schema l n s'.sink).2.1]
    exact h.shared m t ht
  nodes t m ht := by
    change (closeSlot producers slot schema l n s'.sink).2.node? t = some m
    have hne : t ≠ slot := Nat.ne_of_lt (Nat.lt_of_lt_of_le (Graph.lt_size_of_node? ht) hslot)
    rw [node?_closeSlot, if_neg fun hc => hne hc.1]
    exact h.nodes t m ht
  topLevels := (closeSlot_sink producers slot schema l n s'.sink).2.2.trans h.topLevels

theorem Sound.afterClosing {l : Location} (h : Sound (fun l' => l' = l ∨ isOpen l') s)
    {slot : TypeRef} (hslot : s.converted.get? l = some slot) (producers : List AttributeProducer) {schema : Json}
    {n : Node} (hs : s.resolver.known.schemaAt? l = some schema)
    (hn : (planFor schema l).Yields s.answers n) :
    Sound isOpen (closed producers slot schema l n s) := by
  have hsink := closeSlot_sink producers slot schema l n s.sink
  have hnode := node?_closeSlot producers slot schema l n s.sink
  have hsize : (closed producers slot schema l n s).sink.size = s.sink.size :=
    (congrArg Array.size hsink.1).trans Array.size_setIfInBounds
  have hget : ∀ m, (closed producers slot schema l n s).sink.interned.get? m =
      s.sink.interned.get? m := fun m => congrArg (Entries.get? · m) hsink.2.1
  have hanswers : s.answers.Extends (closed producers slot schema l n s).answers :=
    ⟨fun _ _ h => h, fun _ _ h => h, fun m t ht => (hget m).trans ht⟩
  refine ⟨fun m t ht => ?_, fun l' t ht => ?_, fun l' t m ht hm => ?_, h.unique, fun l' t ht => ?_⟩
  · rw [hget] at ht
    have hne : t ≠ slot := fun e => h.apart l slot m hslot (e ▸ ht)
    exact (hnode t).trans ((if_neg fun hc => hne hc.1).trans (h.exact m t ht))
  · exact hsize ▸ h.lt_size l' t ht
  · exact h.apart l' t m ht ((hget m).symm.trans hm)
  · by_cases hl : l' = l
    · subst hl
      rw [show t = slot from Option.some.inj (ht.symm.trans hslot)]
      exact .inr ⟨schema, n, hs, hn.mono hanswers,
        (hnode slot).trans (if_pos ⟨rfl, h.lt_size l' slot hslot⟩)⟩
    · have hne : t ≠ slot := fun e => hl (h.unique l' l slot (e ▸ ht) hslot)
      rcases h.done l' t ht with (e | ho) | hd
      · exact absurd e hl
      · exact .inl ho
      · exact .inr (hd.mono hanswers (.refl _) fun m hm =>
          (hnode t).trans ((if_neg fun hc => hne hc.1).trans hm))

/-! ## Runs -/

/-- A way to convert locations that keeps what was there, and gives the type of a location when it
succeeds. -/
def Faithful (convert : Location → Convert Graph TypeRef) : Prop :=
  ∀ (isOpen : Location → Prop) (l : Location) (s : State Graph), Sound isOpen s →
    Follows s (convert l s).2 ∧ ∀ t, (convert l s).1 = .ok t →
      Sound isOpen (convert l s).2 ∧ (convert l s).2.answers.type l t

theorem run_sound {convert : Location → Convert Graph TypeRef} (hc : Faithful convert)
    (steps : Nat) {α : Type} (p : Plan α) (isOpen : Location → Prop) :
    ∀ s : State Graph, Sound isOpen s → Follows s (p.run convert steps s).2 ∧
      ∀ a, (p.run convert steps s).1 = .ok a →
        Sound isOpen (p.run convert steps s).2 ∧ p.Yields (p.run convert steps s).2.answers a := by
  induction p with
  | done a =>
    intro s hs
    refine ⟨.refl s, fun b hb => ?_⟩
    cases hb
    exact ⟨hs, .done a⟩
  | fail e => exact fun s hs => ⟨.refl s, nofun⟩
  | typeAt l next ih =>
    intro s hs
    have hl := hc isOpen l s hs
    rw [run_typeAt]
    rcases h : convert l s with ⟨e | t, s₁⟩ <;> rw [h] at hl
    · exact ⟨hl.1, nofun⟩
    · obtain ⟨hs₁, ht⟩ := hl.2 t rfl
      obtain ⟨hf, hok⟩ := ih t s₁ hs₁
      refine ⟨hl.1.trans hf, fun a ha => ?_⟩
      obtain ⟨hs', hy⟩ := hok a ha
      exact ⟨hs', .typeAt (hf.answers.type _ _ ht) hy⟩
  | schemaBehind l next ih =>
    intro s hs
    have hgrow := schemaBehind_grows steps l s.resolver
    rw [run_schemaBehind]
    rcases h : schemaBehind steps l s.resolver with ⟨e | q, r⟩ <;> rw [h] at hgrow
    · exact ⟨follows_resolver hgrow, nofun⟩
    · obtain ⟨hf, hok⟩ := ih q _ (hs.resolver hgrow)
      refine ⟨(follows_resolver hgrow).trans hf, fun a ha => ?_⟩
      obtain ⟨hs', hy⟩ := hok a ha
      exact ⟨hs', .schemaBehind (hf.answers.schema _ _ (leads_of_schemaBehind h)) hy⟩
  | share n next ih =>
    intro s hs
    rw [run_share]
    obtain ⟨hf, hok⟩ := ih _ _ (hs.intern n)
    refine ⟨(follows_intern n).trans hf, fun a ha => ?_⟩
    obtain ⟨hs', hy⟩ := hok a ha
    exact ⟨hs', .share (hf.shared _ _ (Graph.get?_interned_intern_self n s.sink)) hy⟩

theorem Sound.start (hs : Sound isOpen s) {steps : Nat} {l l' : Location} {r r' : Resolver}
    {outcome : Except SchemaError Json}
    (hf : followAliases steps [] l s.resolver = (.ok l', r)) (hc : s.converted.get? l' = none)
    (hschema : Resolver.schemaAt l' r = (outcome, r')) :
    Follows s (opened l' { s with resolver := r' }) ∧
      Sound (fun l => l = l' ∨ isOpen l) (opened l' { s with resolver := r' }) := by
  have hgrow := followAliases_grows steps [] l s.resolver
  have hgrow' := Resolver.schemaAt_grows l' r
  rw [hf] at hgrow
  rw [hschema] at hgrow'
  have hr : s.resolver.Grows r' := hgrow.trans hgrow'
  have hs' := hs.resolver hr
  exact ⟨(follows_resolver hr).trans (follows_opened (s := { s with resolver := r' }) hc),
    hs'.afterOpening hc⟩

theorem convert_sound (producers : List AttributeProducer) : ∀ steps : Nat,
    Faithful (convert producers steps)
  | 0 => fun _ _ s _ => ⟨.refl s, nofun⟩
  | steps + 1 => by
    intro isOpen l s hs
    have ih := convert_sound producers steps
    have hgrow := followAliases_grows (steps + 1) [] l s.resolver
    generalize ho : (convert producers (steps + 1) l s).1 = outcome
    generalize hs' : (convert producers (steps + 1) l s).2 = s'
    have hcases := convert_cases producers steps l s
    rw [ho, hs'] at hcases
    cases hcases with
    | noTarget hf =>
      rw [hf] at hgrow
      exact ⟨follows_resolver hgrow, nofun⟩
    | known hf hc =>
      rw [hf] at hgrow
      refine ⟨follows_resolver hgrow, fun t ht => ?_⟩
      cases ht
      exact ⟨hs.resolver hgrow, _, leads_of_followAliases hf, hc⟩
    | noSchema hf hc hschema => exact ⟨(hs.start hf hc hschema).1, nofun⟩
    | @noNode l' r schema r' e s₁ hf hc hschema hp =>
      obtain ⟨hstart, hopen⟩ := hs.start hf hc hschema
      have hrun := run_sound ih (steps + 1) (planFor schema l') _ _ hopen
      rw [hp] at hrun
      exact ⟨hstart.trans hrun.1, nofun⟩
    | @filled l' r schema r' n s₁ hf hc hschema hp =>
      obtain ⟨hstart, hopen⟩ := hs.start hf hc hschema
      have hrun := run_sound ih (steps + 1) (planFor schema l') _ _ hopen
      rw [hp] at hrun
      obtain ⟨hfollows, hok⟩ := hrun
      obtain ⟨hs₁, hy⟩ := hok n rfl
      have hslot : s₁.converted.get? l' = some s.sink.size :=
        hfollows.converted l' _ ((get?_converted_opened l' l' _).trans (if_pos rfl))
      have hs' := hs₁.afterClosing hslot producers
        (Documents.Extends.schemaAt? hfollows.resolver (Resolver.schemaAt?_of_schemaAt hschema)) hy
      refine ⟨(hstart.trans hfollows).afterClosing (Nat.le_refl _) producers schema l' n,
        fun t ht => ?_⟩
      cases ht
      have hleads := (leads_of_followAliases hf).mono (Resolver.schemaAt_grows l' r)
      rw [hschema] at hleads
      exact ⟨hs', l', hleads.mono hfollows.resolver, hslot⟩

end JsonTypes.Materialize
