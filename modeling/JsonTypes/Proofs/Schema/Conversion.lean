import JsonTypes.Proofs.Schema.Resolving

/-!
# What a conversion does

A conversion either fails on the way to the location behind the aliases, or finds its type, or
opens a slot there and carries out the plan for the node (`Converted`). Everything that is shown
of conversions starts from these five cases. What holds of every single step on the way holds of a
conversion, however it ends (`KeptByConversions`).
-/

namespace JsonTypes.Materialize

variable {σ : Type}

theorem resolving_ok {α : Type} {action : Resolve α} {s : State σ} {a : α} {r : Resolver}
    (h : action s.resolver = (.ok a, r)) :
    resolving action s = (.ok a, { s with resolver := r }) := by
  unfold resolving
  rw [h]

theorem resolving_error {α : Type} {action : Resolve α} {s : State σ} {e : SchemaError}
    {r : Resolver} (h : action s.resolver = (.error e, r)) :
    (resolving action s : Except SchemaError α × State σ) =
      (.error e, { s with resolver := r }) := by
  unfold resolving
  rw [h]

variable [Sink σ]

section Plans

variable {α : Type} (convert : Location → Convert σ TypeRef) (steps : Nat)

theorem run_typeAt (l : Location) (next : TypeRef → Plan α) (s : State σ) :
    (Plan.typeAt l next).run convert steps s =
      match convert l s with
      | (.ok t, s') => (next t).run convert steps s'
      | (.error e, s') => (.error e, s') := by
  rcases h : convert l s with ⟨e | t, s'⟩
  · exact Action.bind_error h
  · exact Action.bind_ok h

theorem run_schemaBehind (l : Location) (next : Location × Json → Plan α) (s : State σ) :
    (Plan.schemaBehind l next).run convert steps s =
      match schemaBehind steps l s.resolver with
      | (.ok p, r) => (next p).run convert steps { s with resolver := r }
      | (.error e, r) => (.error e, { s with resolver := r }) := by
  rcases h : schemaBehind steps l s.resolver with ⟨e | p, r⟩
  · exact Action.bind_error (resolving_error h)
  · exact Action.bind_ok (resolving_ok h)

theorem run_share (n : Node) (next : TypeRef → Plan α) (s : State σ) :
    (Plan.share n next).run convert steps s =
      (next (Sink.intern n s.sink).1).run convert steps
        { s with sink := (Sink.intern n s.sink).2 } := rfl

end Plans

/-- The state in which a location has a slot. -/
def opened (l : Location) (s : State σ) : State σ :=
  { s with
    sink := ((Sink.reserve : StateM σ TypeRef) s.sink).2
    converted := s.converted.put l ((Sink.reserve : StateM σ TypeRef) s.sink).1 }

/-- The state in which a slot is filled. -/
def closed (producers : List AttributeProducer) (slot : TypeRef) (schema : Json) (l : Location)
    (n : Node) (s : State σ) : State σ :=
  { s with sink := (closeSlot producers slot schema l n s.sink).2 }

/-- How a conversion ends, and the state that it leaves. -/
inductive Converted (producers : List AttributeProducer) (steps : Nat) (l : Location)
    (s : State σ) : Except SchemaError TypeRef → State σ → Prop
  /-- The aliases lead nowhere. -/
  | noTarget {e r} : followAliases (steps + 1) [] l s.resolver = (.error e, r) →
      Converted producers steps l s (.error e) { s with resolver := r }
  /-- The location behind the aliases has a type. -/
  | known {l' r t} : followAliases (steps + 1) [] l s.resolver = (.ok l', r) →
      s.converted.get? l' = some t →
      Converted producers steps l s (.ok t) { s with resolver := r }
  | noSchema {l' r e r'} : followAliases (steps + 1) [] l s.resolver = (.ok l', r) →
      s.converted.get? l' = none → Resolver.schemaAt l' r = (.error e, r') →
      Converted producers steps l s (.error e) (opened l' { s with resolver := r' })
  /-- The plan fails, and the slot stays open. -/
  | noNode {l' r schema r' e s'} : followAliases (steps + 1) [] l s.resolver = (.ok l', r) →
      s.converted.get? l' = none → Resolver.schemaAt l' r = (.ok schema, r') →
      (planFor schema l').run (convert producers steps) (steps + 1)
        (opened l' { s with resolver := r' }) = (.error e, s') →
      Converted producers steps l s (.error e) s'
  | filled {l' r schema r' n s'} : followAliases (steps + 1) [] l s.resolver = (.ok l', r) →
      s.converted.get? l' = none → Resolver.schemaAt l' r = (.ok schema, r') →
      (planFor schema l').run (convert producers steps) (steps + 1)
        (opened l' { s with resolver := r' }) = (.ok n, s') →
      Converted producers steps l s (.ok ((Sink.reserve : StateM σ TypeRef) s.sink).1)
        (closed producers ((Sink.reserve : StateM σ TypeRef) s.sink).1 schema l' n s')

section New

variable (producers : List AttributeProducer) (convert : Location → Convert σ TypeRef) {steps : Nat}
  {l : Location} {s : State σ} {r : Resolver}

theorem convertNew_of_no_schema {e : SchemaError}
    (hs : Resolver.schemaAt l s.resolver = (.error e, r)) :
    convertNew producers convert steps l s = (.error e, opened l { s with resolver := r }) := by
  rw [convertNew, Action.bind_ok (x := openSlot l) rfl]
  exact Action.bind_error (resolving_error hs)

theorem convertNew_of_schema {schema : Json}
    (hs : Resolver.schemaAt l s.resolver = (.ok schema, r)) :
    convertNew producers convert steps l s =
      match (planFor schema l).run convert steps (opened l { s with resolver := r }) with
      | (.error e, s') => (.error e, s')
      | (.ok n, s') => (.ok ((Sink.reserve : StateM σ TypeRef) s.sink).1,
          closed producers ((Sink.reserve : StateM σ TypeRef) s.sink).1 schema l n s') := by
  rw [convertNew, Action.bind_ok (x := openSlot l) rfl]
  refine (Action.bind_ok (resolving_ok (s := opened l s) hs)).trans ?_
  rcases hp : (planFor schema l).run convert steps (opened l { s with resolver := r })
    with ⟨e | n, s'⟩
  · exact Action.bind_error hp
  · exact Action.bind_ok hp

end New

theorem convert_eq_convertNew {producers : List AttributeProducer} {steps : Nat}
    {l l' : Location} {s : State σ} {r : Resolver}
    (hf : followAliases (steps + 1) [] l s.resolver = (.ok l', r))
    (hc : s.converted.get? l' = none) : convert producers (steps + 1) l s =
      convertNew producers (convert producers steps) (steps + 1) l' { s with resolver := r } := by
  rw [convert, Action.bind_ok (resolving_ok hf), Action.get_bind]
  simp only [hc]

theorem convert_of_known {producers : List AttributeProducer} {steps : Nat} {l l' : Location}
    {s : State σ} {r : Resolver} {t : TypeRef}
    (hf : followAliases (steps + 1) [] l s.resolver = (.ok l', r))
    (hc : s.converted.get? l' = some t) :
    convert producers (steps + 1) l s = (.ok t, { s with resolver := r }) := by
  rw [convert, Action.bind_ok (resolving_ok hf), Action.get_bind]
  simp only [hc]
  rfl

theorem convert_cases (producers : List AttributeProducer) (steps : Nat) (l : Location)
    (s : State σ) : Converted producers steps l s (convert producers (steps + 1) l s).1
      (convert producers (steps + 1) l s).2 := by
  rcases hf : followAliases (steps + 1) [] l s.resolver with ⟨e | l', r⟩
  · rw [convert, Action.bind_error (resolving_error hf)]
    exact .noTarget hf
  · rcases hc : s.converted.get? l' with _ | t
    · rw [convert_eq_convertNew hf hc]
      rcases hs : Resolver.schemaAt l' r with ⟨e | schema, r'⟩
      · rw [convertNew_of_no_schema producers _ hs]
        exact .noSchema hf hc hs
      · rw [convertNew_of_schema producers _ hs]
        rcases hp : (planFor schema l').run (convert producers steps) (steps + 1)
          (opened l' { s with resolver := r' }) with ⟨e | n, s'⟩
        · exact .noNode hf hc hs hp
        · exact .filled hf hc hs hp
    · rw [convert_of_known hf hc]
      exact .known hf hc

/-! ## What conversions keep -/

/-- The single steps of conversions keep a relation between the states before and after. -/
structure KeptByConversions (producers : List AttributeProducer)
    (I : State σ → State σ → Prop) : Prop where
  refl : ∀ s, I s s
  trans : ∀ {s₁ s₂ s₃}, I s₁ s₂ → I s₂ s₃ → I s₁ s₃
  follow : ∀ (steps : Nat) (l : Location) (s : State σ),
    I s { s with resolver := (followAliases steps [] l s.resolver).2 }
  lookup : ∀ (l : Location) (s : State σ),
    I s { s with resolver := (Resolver.schemaAt l s.resolver).2 }
  intern : ∀ (n : Node) (s : State σ), I s { s with sink := (Sink.intern n s.sink).2 }
  opened : ∀ (l : Location) (s : State σ), s.converted.get? l = none → I s (opened l s)
  closed : ∀ (slot : TypeRef) (schema : Json) (l : Location) (n : Node) (s : State σ),
    I s (closed producers slot schema l n s)
  addTopLevel : ∀ (name : String) (t : TypeRef) (s : State σ),
    I s { s with sink := (Sink.addTopLevel name t s.sink).2 }

namespace KeptByConversions

variable {producers : List AttributeProducer} {I : State σ → State σ → Prop}

theorem schemaBehind (h : KeptByConversions producers I) (steps : Nat) (l : Location) :
    Action.Keeps I (resolving (schemaBehind steps l)) := by
  intro s
  have hfollow := h.follow steps l s
  unfold resolving Materialize.schemaBehind
  rcases hf : followAliases steps [] l s.resolver with ⟨e | l', r⟩ <;> rw [hf] at hfollow
  · rw [Action.bind_error hf]
    exact hfollow
  · have hlookup := h.lookup l' { s with resolver := r }
    rw [Action.bind_ok hf]
    rcases hs : Resolver.schemaAt l' r with ⟨e | schema, r'⟩ <;> rw [hs] at hlookup
    · rw [Action.bind_error hs]
      exact h.trans hfollow hlookup
    · rw [Action.bind_ok hs]
      exact h.trans hfollow hlookup

theorem run (h : KeptByConversions producers I) {convert : Location → Convert σ TypeRef}
    (hc : ∀ l, Action.Keeps I (convert l)) (steps : Nat) {α : Type} (p : Plan α) :
    Action.Keeps I (p.run convert steps) := by
  induction p with
  | done a => exact h.refl
  | fail e => exact h.refl
  | typeAt l next ih => exact (hc l).bind h.trans ih
  | schemaBehind l next ih => exact (h.schemaBehind steps l).bind h.trans ih
  | share n next ih => exact fun s => h.trans (h.intern n s) (ih _ _)

theorem convert (h : KeptByConversions producers I) : ∀ (steps : Nat) (l : Location),
    Action.Keeps I (convert producers steps l)
  | 0, _ => h.refl
  | steps + 1, l => by
    intro s
    have hfollow := h.follow (steps + 1) l s
    have hrun := fun (schema : Json) (l' : Location) =>
      h.run (h.convert steps) (steps + 1) (planFor schema l')
    have hc := convert_cases producers steps l s
    generalize (Materialize.convert producers (steps + 1) l s).1 = outcome at hc
    generalize (Materialize.convert producers (steps + 1) l s).2 = s' at hc ⊢
    -- The three ways that open a slot begin alike.
    have hstart : ∀ {l' r found r'}, followAliases (steps + 1) [] l s.resolver = (.ok l', r) →
        s.converted.get? l' = none → Resolver.schemaAt l' r = (found, r') →
        I s (Materialize.opened l' { s with resolver := r' }) := by
      intro l' r found r' hf hnew hs
      have hlookup := h.lookup l' { s with resolver := r }
      rw [hf] at hfollow
      rw [hs] at hlookup
      exact h.trans (h.trans hfollow hlookup) (h.opened l' { s with resolver := r' } hnew)
    cases hc with
    | noTarget hf =>
      rw [hf] at hfollow
      exact hfollow
    | known hf =>
      rw [hf] at hfollow
      exact hfollow
    | noSchema hf hnew hs => exact hstart hf hnew hs
    | @noNode l' r schema r' e s' hf hnew hs hp =>
      have hplan := hrun schema l' (Materialize.opened l' { s with resolver := r' })
      rw [hp] at hplan
      exact h.trans (hstart hf hnew hs) hplan
    | @filled l' r schema r' n s' hf hnew hs hp =>
      have hplan := hrun schema l' (Materialize.opened l' { s with resolver := r' })
      rw [hp] at hplan
      exact h.trans (h.trans (hstart hf hnew hs) hplan) (h.closed _ schema l' n s')

theorem convertTopLevels (h : KeptByConversions producers I) (steps : Nat) :
    ∀ topLevels : List (String × Location),
      Action.Keeps I (convertTopLevels producers steps topLevels)
  | [] => h.refl
  | (name, l) :: rest => by
    refine (h.convert steps l).bind h.trans fun t => ?_
    have hadd : Action.Keeps I (building (Sink.addTopLevel name t) : Convert σ Unit) :=
      h.addTopLevel name t
    exact hadd.bind h.trans fun _ => h.convertTopLevels steps rest

end KeptByConversions

end JsonTypes.Materialize
