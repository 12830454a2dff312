import JsonTypes.Proofs.Schema.Conversion

/-!
# Resolvers that do the same

Nothing looks at a resolver but by asking it for documents. So where two resolvers are related, and
asking both for a document gives the same and leaves them related (`Resolver.Bisimulation`), all
that is built on it does the same with both: resolving addresses, following references, and a whole
run into equal sinks (`Materialize.runInto_same`).
-/

namespace JsonTypes

/-! ## Actions -/

namespace Action

variable {ε S α β : Type} {R : S → S → Prop}

/-- From related states the action ends alike, and it leaves related states. -/
def Respects (R : S → S → Prop) (x : Action ε S α) : Prop :=
  ∀ s s', R s s' → (x s).1 = (x s').1 ∧ R (x s).2 (x s').2

theorem Respects.unchanged {x : Action ε S α} {result : Except ε α} (h : ∀ s, x s = (result, s)) :
    Respects R x := fun s s' hs => by
  rw [h, h]
  exact ⟨rfl, hs⟩

theorem Respects.pure (a : α) : Respects R (pure a : Action ε S α) := .unchanged fun _ => rfl

theorem Respects.throw (e : ε) : Respects R (throw e : Action ε S α) := .unchanged fun _ => rfl

theorem Respects.bind {x : Action ε S α} {f : α → Action ε S β} (hx : Respects R x)
    (hf : ∀ a, Respects R (f a)) : Respects R (x >>= f) := by
  intro s s' hs
  obtain ⟨hout, hstates⟩ := hx s s' hs
  rcases h : x s with ⟨e | a, s₁⟩ <;> rcases h' : x s' with ⟨e' | a', s₁'⟩ <;>
    rw [h, h'] at hout hstates <;> cases hout
  · rw [bind_error h, bind_error h']
    exact ⟨rfl, hstates⟩
  · rw [bind_ok h, bind_ok h']
    exact hf a s₁ s₁' hstates

/-- An action may read what is the same in related states. -/
theorem Respects.get_bind {f : S → Action ε S β}
    (hf : ∀ s s', R s s' → f s = f s') (hr : ∀ s, Respects R (f s)) :
    Respects R ((get : Action ε S S) >>= f) := by
  intro s s' hs
  rw [Action.get_bind, Action.get_bind, hf s s' hs]
  exact hr s' s s' hs

end Action

open JsonTypes.Action

/-! ## Resolvers -/

namespace Resolver

/-- From related resolvers, a document is found or missed alike, and related resolvers are left. -/
def Bisimulation (R : Resolver → Resolver → Prop) : Prop := ∀ id, Respects R (document id)

variable {R : Resolver → Resolver → Prop}

theorem respects_ofExcept {α : Type} (x : Except SchemaError α) :
    Respects R (liftM x : Resolve α) :=
  .unchanged (ofExcept_apply x)

theorem Bisimulation.schemaAt (hR : Bisimulation R) (l : Location) : Respects R (schemaAt l) :=
  (hR _).bind fun _ => respects_ofExcept _

theorem Bisimulation.resolve (hR : Bisimulation R) (uri : SchemaUri) :
    Respects R (resolve uri) :=
  (hR _).bind fun _ => (respects_ofExcept _).bind fun _ => (respects_ofExcept _).bind fun _ =>
    .pure _

theorem Bisimulation.refsForUri (hR : Bisimulation R) (uri : SchemaUri) (default : String) :
    Respects R (refsForUri uri default) := by
  refine (hR.resolve _).bind fun l => (hR.schemaAt l).bind fun schema => ?_
  split_ifs
  · exact respects_ofExcept _
  · exact .pure _

end Resolver

open Resolver

variable {R : Resolver → Resolver → Prop}

namespace Materialize

theorem followAliases_respects (hR : Bisimulation R) :
    ∀ (steps : Nat) (passed : List Location) (l : Location),
      Respects R (followAliases steps passed l)
  | 0, _, _ => .throw _
  | steps + 1, passed, l => by
    refine (hR.schemaAt l).bind fun schema => ?_
    rcases reference? schema with _ | reference <;> simp only
    · exact .pure _
    · split_ifs
      · exact .throw _
      · exact (hR.resolve _).bind fun target =>
          followAliases_respects hR steps (l :: passed) target

theorem schemaBehind_respects (hR : Bisimulation R) (steps : Nat) (l : Location) :
    Respects R (schemaBehind steps l) :=
  (followAliases_respects hR steps [] l).bind fun l' => (hR.schemaAt l').bind fun _ => .pure _

/-! ## Conversions -/

variable {σ : Type}

/-- States with related resolvers that are the same else. -/
structure Beside (R : Resolver → Resolver → Prop) (s s' : State σ) : Prop where
  resolver : R s.resolver s'.resolver
  sink : s.sink = s'.sink
  converted : s.converted = s'.converted

theorem resolving_respects {α : Type} {x : Resolve α} (hx : Respects R x) :
    Respects (Beside (σ := σ) R) (resolving x) := fun s s' hs => by
  obtain ⟨hout, hstates⟩ := hx s.resolver s'.resolver hs.resolver
  exact ⟨hout, hstates, hs.sink, hs.converted⟩

theorem building_respects {α : Type} (x : StateM σ α) : Respects (Beside R) (building x) :=
  fun s s' hs => by
    unfold building
    rw [hs.sink]
    exact ⟨rfl, hs.resolver, rfl, hs.converted⟩

variable [Sink σ]

theorem openSlot_respects (l : Location) : Respects (Beside (σ := σ) R) (openSlot l) :=
  fun s s' hs => by
    unfold openSlot
    rw [hs.sink, hs.converted]
    exact ⟨rfl, hs.resolver, rfl, rfl⟩

theorem run_respects (hR : Bisimulation R) {convert : Location → Convert σ TypeRef} {steps : Nat}
    (hc : ∀ l, Respects (Beside R) (convert l)) {α : Type} (p : Plan α) :
    Respects (Beside R) (p.run convert steps) := by
  induction p with
  | done a => exact .pure _
  | fail e => exact .throw _
  | typeAt l next ih => exact (hc l).bind ih
  | schemaBehind l next ih =>
    exact (resolving_respects (schemaBehind_respects hR steps l)).bind ih
  | share n next ih => exact (building_respects _).bind ih

variable (producers : List AttributeProducer)

theorem convertNew_respects (hR : Bisimulation R) {convert : Location → Convert σ TypeRef}
    (hc : ∀ l, Respects (Beside R) (convert l)) (steps : Nat) (l : Location) :
    Respects (Beside R) (convertNew producers convert steps l) :=
  (openSlot_respects l).bind fun _ =>
    (resolving_respects (hR.schemaAt l)).bind fun _ => (run_respects hR hc _).bind fun _ =>
      (building_respects _).bind fun _ => .pure _

theorem convert_respects (hR : Bisimulation R) : ∀ (steps : Nat) (l : Location),
    Respects (Beside (σ := σ) R) (convert producers steps l)
  | 0, _ => .throw _
  | steps + 1, l => by
    refine (resolving_respects (followAliases_respects hR (steps + 1) [] l)).bind fun l' => ?_
    -- Here the state itself is read, but only its types, which are the same on both sides.
    refine Respects.get_bind (fun s s' hs => ?_) fun s => ?_
    · rw [hs.converted]
    · rcases s.converted.get? l' with _ | type <;> simp only
      · exact convertNew_respects producers hR (convert_respects hR steps) (steps + 1) l'
      · exact .pure _

theorem convertTopLevels_respects (hR : Bisimulation R) (steps : Nat) :
    ∀ topLevels : List (String × Location),
      Respects (Beside (σ := σ) R) (convertTopLevels producers steps topLevels)
  | [] => .pure _
  | (_, l) :: rest => (convert_respects producers hR steps l).bind fun _ =>
      (building_respects _).bind fun _ => convertTopLevels_respects hR steps rest

/-- With related resolvers a run has the same outcome and does the same to equal sinks. -/
theorem runInto_same (hR : Bisimulation R) (steps : Nat) (topLevels : List (String × Location))
    {r r' : Resolver} (h : R r r') (sink : σ) :
    (runInto steps producers topLevels r sink).1 =
        (runInto steps producers topLevels r' sink).1 ∧
      R (runInto steps producers topLevels r sink).2.1
        (runInto steps producers topLevels r' sink).2.1 ∧
      (runInto steps producers topLevels r sink).2.2 =
        (runInto steps producers topLevels r' sink).2.2 := by
  obtain ⟨hout, hstates⟩ := convertTopLevels_respects producers hR steps topLevels
    ⟨r, sink, []⟩ ⟨r', sink, []⟩ ⟨h, rfl, rfl⟩
  exact ⟨hout, hstates.resolver, hstates.sink⟩

end Materialize

/-- No operation and no run tells one resolver from the other. -/
structure Resolver.Interchangeable (r r' : Resolver) : Prop where
  document : ∀ id, (document id r).1 = (document id r').1
  resolve : ∀ uri, (resolve uri r).1 = (resolve uri r').1
  schemaAt : ∀ l, (schemaAt l r).1 = (schemaAt l r').1
  refsForUri : ∀ uri default, (refsForUri uri default r).1 = (refsForUri uri default r').1
  run : ∀ {σ : Type} [Sink σ] (steps : Nat) (producers : List AttributeProducer)
    (topLevels : List (String × Location)) (sink : σ),
    (Materialize.runInto steps producers topLevels r sink).1 =
        (Materialize.runInto steps producers topLevels r' sink).1 ∧
      (Materialize.runInto steps producers topLevels r sink).2.2 =
        (Materialize.runInto steps producers topLevels r' sink).2.2

theorem Resolver.Bisimulation.interchangeable (hR : Bisimulation R) {r r' : Resolver}
    (h : R r r') : r.Interchangeable r' where
  document id := (hR id r r' h).1
  resolve uri := (hR.resolve uri r r' h).1
  schemaAt l := (hR.schemaAt l r r' h).1
  refsForUri uri default := (hR.refsForUri uri default r r' h).1
  run steps producers topLevels sink :=
    have ⟨hout, _, hsink⟩ := Materialize.runInto_same producers hR steps topLevels h sink
    ⟨hout, hsink⟩

end JsonTypes
