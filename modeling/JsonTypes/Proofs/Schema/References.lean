import JsonTypes.Proofs.Schema.Asks
import JsonTypes.Proofs.Schema.Slots

/-!
# The references of a run

A run is asked for the types of its top levels, and on the way for those of the parts that plans ask
about. These references are listed here with the types that they get (`references`). Every one of
them is at a location that the run can come to, and the type that it gets is the one that the state
has from then on for what it leads to (`convert_noted`).
-/

namespace JsonTypes.Materialize

/-! ## Who gets a type -/

section Lists

variable {σ : Type} [Sink σ]

/-- The references that get a type while a plan is carried out, in order, given those that do while
a location is converted. -/
def Plan.references {α : Type} (convert : Location → Convert σ TypeRef)
    (within : Location → State σ → List (Location × TypeRef)) (steps : Nat) :
    Plan α → State σ → List (Location × TypeRef)
  | .done _, _ => []
  | .fail _, _ => []
  | .typeAt l next, s =>
    within l s ++
      match convert l s with
      | (.ok t, s') => (next t).references convert within steps s'
      | (.error _, _) => []
  | .schemaBehind l next, s =>
    match Materialize.schemaBehind steps l s.resolver with
    | (.ok p, r) => (next p).references convert within steps { s with resolver := r }
    | (.error _, _) => []
  | .share n next, s =>
    (next (Sink.intern n s.sink).1).references convert within steps
      { s with sink := (Sink.intern n s.sink).2 }

/-- The references beneath a location: none if what it leads to has a type already. -/
def referencesBeneath (convert : Location → Convert σ TypeRef)
    (within : Location → State σ → List (Location × TypeRef)) (steps : Nat) (l : Location)
    (s : State σ) : List (Location × TypeRef) :=
  match followAliases steps [] l s.resolver with
  | (.error _, _) => []
  | (.ok l, r) =>
    match s.converted.get? l with
    | some _ => []
    | none =>
      match Resolver.schemaAt l r with
      | (.error _, _) => []
      | (.ok schema, r) =>
        (planFor schema l).references convert within steps (opened l { s with resolver := r })

/-- The references that get a type while a location is converted, in order; it is the last one. -/
def references (producers : List AttributeProducer) :
    Nat → Location → State σ → List (Location × TypeRef)
  | 0, _, _ => []
  | steps + 1, l, s =>
    referencesBeneath (convert producers steps) (references producers steps) (steps + 1) l s ++
      match (convert producers (steps + 1) l s).1 with
      | .ok t => [(l, t)]
      | .error _ => []

/-- The references that get a type in a run, in order. -/
def allReferences (producers : List AttributeProducer) (steps : Nat) :
    List (String × Location) → State σ → List (Location × TypeRef)
  | [], _ => []
  | (name, l) :: rest, s =>
    references producers steps l s ++
      match convert producers steps l s with
      | (.ok t, s') =>
        allReferences producers steps rest { s' with sink := (Sink.addTopLevel name t s'.sink).2 }
      | (.error _, _) => []

theorem mem_references {producers : List AttributeProducer} {steps : Nat} {l : Location}
    {s : State σ} {t : TypeRef} (h : (convert producers steps l s).1 = .ok t) :
    (l, t) ∈ references producers steps l s := by
  cases steps with
  | zero => cases h
  | succ steps =>
    rw [references, h]
    exact List.mem_append_right _ (List.mem_singleton.2 rfl)

end Lists

/-! ## Which type they get -/

variable {docs : Documents} {starts : List Location} {notes notes' : List (Location × TypeRef)}
  {s s₁ s' : State Graph}

/-- The references are at locations that can be come to, and have the types that the later state
has for them. It has slots for such locations only, beside those that were there. -/
structure Noted (docs : Documents) (starts : List Location) (notes : List (Location × TypeRef))
    (s s' : State Graph) : Prop where
  reachable : ∀ p ∈ notes, docs.Reachable starts p.1
  typed : ∀ p ∈ notes, s'.answers.type p.1 p.2
  slots : ∀ l ∈ Entries.keys s'.converted, l ∈ Entries.keys s.converted ∨ docs.Reachable starts l

theorem Noted.none (h : s'.converted = s.converted) : Noted docs starts [] s s' :=
  ⟨nofun, nofun, fun _ hl => .inl (h ▸ hl)⟩

theorem Noted.append (h : Noted docs starts notes s s₁) (hgrows : s₁.Grows s')
    (h' : Noted docs starts notes' s₁ s') : Noted docs starts (notes ++ notes') s s' where
  reachable p hp := (List.mem_append.1 hp).elim (h.reachable p) (h'.reachable p)
  typed p hp := (List.mem_append.1 hp).elim (fun hp => hgrows.answers.type _ _ (h.typed p hp))
    (h'.typed p)
  slots l hl := (h'.slots l hl).elim (h.slots l) .inr

/-- What is noted of conversions by a list, as long as the run only comes to these documents. -/
def Notes (docs : Documents) (starts : List Location) (convert : Location → Convert Graph TypeRef)
    (within : Location → State Graph → List (Location × TypeRef)) : Prop :=
  ∀ (isOpen : Location → Prop) (l : Location) (s : State Graph), Sound isOpen s →
    docs.Reachable starts l → (convert l s).2.resolver.known.Extends docs →
      Noted docs starts (within l s) s (convert l s).2

theorem run_noted {convert : Location → Convert Graph TypeRef}
    {within : Location → State Graph → List (Location × TypeRef)} (hc : Faithful convert)
    (hw : Notes docs starts convert within) (steps : Nat) {α : Type} {wanted : α → Prop}
    (p : Plan α) (hp : p.Within docs (docs.Reachable starts) wanted) (isOpen : Location → Prop) :
    ∀ s : State Graph, Sound isOpen s →
      (p.run convert steps s).2.resolver.known.Extends docs →
        Noted docs starts (p.references convert within steps s) s (p.run convert steps s).2 := by
  induction p with
  | done a => exact fun s _ _ => .none rfl
  | fail e => exact fun s _ _ => .none rfl
  | typeAt l next ih =>
    intro s hs hdocs
    have hl := hc isOpen l s hs
    have hnoted := hw isOpen l s hs hp.1
    rw [run_typeAt] at hdocs ⊢
    rw [Plan.references]
    rcases h : convert l s with ⟨e | t, s₁⟩ <;> simp only [h] at hl hnoted hdocs ⊢
    · rw [List.append_nil]
      exact hnoted hdocs
    · obtain ⟨hs₁, -⟩ := hl.2 t rfl
      -- The rest of the plan adds only, so the type of this reference is still the same in the end.
      have hrest := (run_sound hc steps (next t) isOpen s₁ hs₁).1
      exact (hnoted (Documents.Extends.trans hrest.resolver hdocs)).append hrest.toGrows
        (ih t (hp.2 t) s₁ hs₁ hdocs)
  | schemaBehind l next ih =>
    intro s hs hdocs
    have hgrow := schemaBehind_grows steps l s.resolver
    rw [run_schemaBehind] at hdocs ⊢
    rw [Plan.references]
    rcases h : schemaBehind steps l s.resolver with ⟨e | q, r⟩ <;>
      simp only [h] at hgrow hdocs ⊢
    · exact .none rfl
    · have hs₁ := hs.resolver hgrow
      have hrest := (run_sound hc steps (next q) isOpen _ hs₁).1
      have hr : r.known.Extends docs := Documents.Extends.trans hrest.resolver hdocs
      obtain ⟨hleads, hschema⟩ := leads_of_schemaBehind h
      have hq := hp.2 q (reachable_of_leads hp.1 (hleads.mono hr)) (hr.schemaAt? hschema)
      have hnoted := ih q hq _ hs₁ hdocs
      exact ⟨hnoted.reachable, hnoted.typed, hnoted.slots⟩
  | share n next ih =>
    intro s hs hdocs
    rw [run_share] at hdocs ⊢
    have hnoted := ih _ (hp _) _ (hs.intern n) hdocs
    exact ⟨hnoted.reachable, hnoted.typed, hnoted.slots⟩

/-- A slot for a location that can be come to may be opened first. -/
theorem Noted.afterOpening {l : Location} {r : Resolver}
    (h : Noted docs starts notes (opened l { s with resolver := r }) s')
    (hl : docs.Reachable starts l) : Noted docs starts notes s s' where
  reachable := h.reachable
  typed := h.typed
  slots l' hl' := by
    rcases h.slots l' hl' with hold | hreach
    · rcases (Entries.mem_keys_put _ _ _ _).1 hold with rfl | hold
      · exact .inr hl
      · exact .inl hold
    · exact .inr hreach

section Conversions

variable {producers : List AttributeProducer} {steps : Nat} {isOpen : Location → Prop}
  {l l' : Location} {r r' : Resolver}

theorem reachable_of_followAliases {r'' : Resolver} (hl : docs.Reachable starts l)
    (hf : followAliases steps [] l r = (.ok l', r')) (hgrow : r'.Grows r'')
    (hdocs : r''.known.Extends docs) : docs.Reachable starts l' :=
  reachable_of_leads hl
    ((leads_of_followAliases hf).mono (Documents.Extends.trans hgrow hdocs))

/-- What is noted while the plan for a new slot is carried out. -/
theorem plan_noted
    (hw : Notes docs starts (convert producers steps) (references producers steps))
    (hs : Sound isOpen s) (hl : docs.Reachable starts l)
    (hf : followAliases (steps + 1) [] l s.resolver = (.ok l', r))
    (hnew : s.converted.get? l' = none) {schema : Json}
    (hschema : Resolver.schemaAt l' r = (.ok schema, r')) {outcome : Except SchemaError Node}
    (hp : (planFor schema l').run (convert producers steps) (steps + 1)
      (opened l' { s with resolver := r' }) = (outcome, s'))
    (hdocs : s'.resolver.known.Extends docs) :
    Noted docs starts
      (referencesBeneath (convert producers steps) (references producers steps) (steps + 1) l s)
      s s' := by
  have hfaithful := convert_sound producers steps
  obtain ⟨-, hopen⟩ := hs.start hf hnew hschema
  have hgrow := Resolver.schemaAt_grows l' r
  have hrest := (run_sound hfaithful (steps + 1) (planFor schema l') _ _ hopen).1
  rw [hschema] at hgrow
  rw [hp] at hrest
  have hr' : r'.known.Extends docs := Documents.Extends.trans hrest.resolver hdocs
  have hl' := reachable_of_followAliases hl hf hgrow hr'
  have hplan := planFor_within hl' (hr'.schemaAt? (Resolver.schemaAt?_of_schemaAt hschema))
  have hnoted := run_noted hfaithful hw (steps + 1) (planFor schema l') hplan _ _ hopen
  rw [hp] at hnoted
  simp only [referencesBeneath, hf, hnew, hschema]
  exact (hnoted hdocs).afterOpening hl'

/-- What a conversion notes, before it notes itself. -/
theorem beneath_noted
    (hw : Notes docs starts (convert producers steps) (references producers steps))
    (hs : Sound isOpen s) (hl : docs.Reachable starts l)
    (hdocs : (convert producers (steps + 1) l s).2.resolver.known.Extends docs) :
    Noted docs starts
      (referencesBeneath (convert producers steps) (references producers steps) (steps + 1) l s) s
      (convert producers (steps + 1) l s).2 := by
  have hcases := convert_cases producers steps l s
  generalize (convert producers (steps + 1) l s).1 = outcome at hcases
  generalize (convert producers (steps + 1) l s).2 = s' at hcases hdocs ⊢
  cases hcases with
  | noTarget hf =>
    simp only [referencesBeneath, hf]
    exact .none rfl
  | known hf hc =>
    simp only [referencesBeneath, hf, hc]
    exact .none rfl
  | @noSchema l' r e r' hf hnew hschema =>
    have hgrow := Resolver.schemaAt_grows l' r
    rw [hschema] at hgrow
    simp only [referencesBeneath, hf, hnew, hschema]
    exact (Noted.none rfl).afterOpening (reachable_of_followAliases hl hf hgrow hdocs)
  | noNode hf hnew hschema hp => exact plan_noted hw hs hl hf hnew hschema hp hdocs
  | filled hf hnew hschema hp =>
    have hnoted := plan_noted hw hs hl hf hnew hschema hp hdocs
    exact ⟨hnoted.reachable, hnoted.typed, hnoted.slots⟩

end Conversions

theorem convert_noted (producers : List AttributeProducer) : ∀ steps : Nat,
    Notes docs starts (convert producers steps) (references producers steps)
  | 0 => fun _ _ _ _ _ _ => .none rfl
  | steps + 1 => by
    intro isOpen l s hs hl hdocs
    have htype := (convert_sound producers (steps + 1) isOpen l s hs).2
    have hbeneath := beneath_noted (convert_noted producers steps) hs hl hdocs
    rw [references]
    refine hbeneath.append (.refl _) ?_
    rcases h : (convert producers (steps + 1) l s).1 with e | t <;> simp only
    · exact .none rfl
    · refine ⟨?_, ?_, fun _ hl' => .inl hl'⟩ <;> rintro p hp <;> cases List.mem_singleton.1 hp
      · exact hl
      · exact (htype t h).2

end JsonTypes.Materialize
