import JsonTypes.Proofs.Schema.Conversion

/-!
# More steps change nothing

Steps only decide whether a run ends. One that does not run out of them does the same with any
greater number (`convert_settled`, `convertTopLevels_settled`), so what a run does is the same for
all numbers that are great enough.
-/

namespace JsonTypes.Materialize

/-- Wherever the first action does not run out of steps, the second one does the same. -/
def Settles {S α : Type} (x y : Action SchemaError S α) : Prop :=
  ∀ s, (x s).1 ≠ .error .outOfSteps → y s = x s

section Actions

variable {S α β : Type}

theorem Settles.refl (x : Action SchemaError S α) : Settles x x := fun _ _ => rfl

theorem Settles.bind {x y : Action SchemaError S α} {f g : α → Action SchemaError S β}
    (h : Settles x y) (hf : ∀ a, Settles (f a) (g a)) : Settles (x >>= f) (y >>= g) := by
  intro s hs
  rcases hx : x s with ⟨e | a, s₁⟩
  · rw [Action.bind_error hx] at hs ⊢
    have hy := (h s (by rw [hx]; exact Action.error_ne hs)).trans hx
    exact Action.bind_error hy
  · rw [Action.bind_ok hx] at hs ⊢
    have hy := (h s (by rw [hx]; exact nofun)).trans hx
    exact (Action.bind_ok hy).trans (hf a s₁ hs)

end Actions

theorem followAliases_settled : ∀ {steps steps' : Nat}, steps ≤ steps' →
    ∀ (passed : List Location) (l : Location),
      Settles (followAliases steps passed l) (followAliases steps' passed l)
  | 0, _, _, _, _ => fun _ hs => absurd rfl hs
  | steps + 1, 0, hle, _, _ => absurd hle (Nat.not_succ_le_zero steps)
  | steps + 1, steps' + 1, hle, passed, l => by
    refine (Settles.refl (Resolver.schemaAt l)).bind fun schema => ?_
    rcases reference? schema with _ | reference <;> simp only
    · exact .refl _
    · split_ifs
      · exact .refl _
      · exact (Settles.refl _).bind fun l' =>
          followAliases_settled (Nat.le_of_succ_le_succ hle) (l :: passed) l'

theorem schemaBehind_settled {steps steps' : Nat} (hle : steps ≤ steps') (l : Location) :
    Settles (schemaBehind steps l) (schemaBehind steps' l) :=
  (followAliases_settled hle [] l).bind fun _ => .refl _

variable {σ : Type}

theorem resolving_settled {α : Type} {x y : Resolve α} (h : Settles x y) :
    Settles (resolving (σ := σ) x) (resolving y) := by
  intro s hs
  unfold resolving at hs ⊢
  rw [h s.resolver hs]

variable [Sink σ]

theorem run_settled {convert convert' : Location → Convert σ TypeRef} {steps steps' : Nat}
    (hc : ∀ l, Settles (convert l) (convert' l)) (hle : steps ≤ steps') {α : Type} (p : Plan α) :
    Settles (p.run convert steps) (p.run convert' steps') := by
  induction p with
  | done a => exact .refl _
  | fail e => exact .refl _
  | typeAt l next ih => exact (hc l).bind ih
  | schemaBehind l next ih =>
    exact (resolving_settled (schemaBehind_settled hle l)).bind ih
  | share n next ih => exact (Settles.refl _).bind ih

variable (producers : List AttributeProducer)

theorem convert_settled : ∀ {steps steps' : Nat}, steps ≤ steps' → ∀ l : Location,
    Settles (convert (σ := σ) producers steps l) (convert producers steps' l)
  | 0, _, _, _ => fun _ hs => absurd rfl hs
  | steps + 1, 0, hle, _ => absurd hle (Nat.not_succ_le_zero steps)
  | steps + 1, steps' + 1, hle, l => by
    refine (resolving_settled (followAliases_settled hle [] l)).bind fun l' => ?_
    refine (Settles.refl get).bind fun s => ?_
    rcases s.converted.get? l' with _ | t <;> simp only
    · refine (Settles.refl (openSlot l')).bind fun slot => ?_
      refine (Settles.refl _).bind fun schema => ?_
      have hinner := convert_settled (Nat.le_of_succ_le_succ hle)
      exact (run_settled hinner hle (planFor schema l')).bind fun n => .refl _
    · exact .refl _

theorem convertTopLevels_settled {steps steps' : Nat} (hle : steps ≤ steps') :
    ∀ topLevels : List (String × Location),
      Settles (convertTopLevels (σ := σ) producers steps topLevels)
        (convertTopLevels producers steps' topLevels)
  | [] => .refl _
  | (_, l) :: rest => (convert_settled producers hle l).bind fun _ =>
      (Settles.refl _).bind fun _ => convertTopLevels_settled hle rest

end JsonTypes.Materialize
