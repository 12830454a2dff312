import Mathlib.Tactic.Common
import JsonTypes.Schema.Materialize

/-!
# What a resolver finds

Documents say which schema stands at a location (`Documents.schemaAt?`) and where a location leads
when its references are followed (`Documents.Leads`). A resolver only gets more documents
(`Resolver.Grows`), and what it answers is what its documents say afterwards
(`schemaAt?_of_schemaAt`, `leads_of_followAliases`).

Actions that may fail are taken apart here, once for all: a sequence of two succeeds if both do
(`Action.of_bind_ok`), and what both keep is kept by the sequence, whatever the outcome
(`Action.Keeps.bind`).
-/

namespace JsonTypes

/-! ## Actions that may fail -/

/-- An action on a state that may fail; the state keeps what was done before. -/
abbrev Action (ε S α : Type) := ExceptT ε (StateM S) α

namespace Action

variable {ε S α β : Type} {x : Action ε S α} {f : α → Action ε S β} {s s' : S}

theorem bind_apply (x : Action ε S α) (f : α → Action ε S β) (s : S) :
    (x >>= f) s =
      match x s with
      | (.ok a, s') => f a s'
      | (.error e, s') => (.error e, s') := by
  change (ExceptT.bind x f) s = _
  simp only [ExceptT.bind, ExceptT.mk, bind, StateT.bind]
  rcases x s with ⟨_ | _, _⟩ <;> rfl

theorem bind_ok {a : α} (h : x s = (.ok a, s')) : (x >>= f) s = f a s' := by
  rw [bind_apply, h]

theorem bind_error {e : ε} (h : x s = (.error e, s')) : (x >>= f) s = (.error e, s') := by
  rw [bind_apply, h]

theorem get_bind (f : S → Action ε S β) (s : S) : ((get : Action ε S S) >>= f) s = f s s := rfl

theorem of_bind_ok {b : β} (h : (x >>= f) s = (.ok b, s')) :
    ∃ a s₁, x s = (.ok a, s₁) ∧ f a s₁ = (.ok b, s') := by
  rcases hx : x s with ⟨e | a, s₁⟩
  · rw [bind_error hx] at h
    cases h
  · rw [bind_ok hx] at h
    exact ⟨a, s₁, rfl, h⟩

/-- Errors differ in the same way, whatever a success would have been. -/
theorem error_ne {e e' : ε} (h : (.error e : Except ε α) ≠ .error e') :
    (.error e : Except ε β) ≠ .error e' :=
  fun he => h (congrArg _ (Except.error.inj he))

/-- However the action ends, the states before and after are related. -/
def Keeps (I : S → S → Prop) (x : Action ε S α) : Prop := ∀ s, I s (x s).2

theorem Keeps.bind {I : S → S → Prop} (trans : ∀ {a b c}, I a b → I b c → I a c)
    (hx : Keeps I x) (hf : ∀ a, Keeps I (f a)) : Keeps I (x >>= f) := by
  intro s
  rcases h : x s with ⟨e | a, s₁⟩ <;> have hs := hx s <;> rw [h] at hs
  · rw [bind_error h]
    exact hs
  · rw [bind_ok h]
    exact trans hs (hf a s₁)

end Action

/-! ## Documents -/

/-- What documents there are, by their addresses. -/
abbrev Documents := DocumentId → Option Json

namespace Documents

def schemaAt? (docs : Documents) (l : Location) : Option Json :=
  (docs l.document).bind fun document => (lookup document l).toOption

/-- The location that an address means. -/
def locate? (docs : Documents) (uri : SchemaUri) : Option Location :=
  (docs uri.document).bind fun document => (Resolver.locate uri document).toOption

/-- The second location is the first one without a reference on the way from the first. -/
inductive Leads (docs : Documents) : Location → Location → Prop
  | here {l schema} : docs.schemaAt? l = some schema → Materialize.reference? schema = none →
      Leads docs l l
  | there {l schema reference target l'} : docs.schemaAt? l = some schema →
      Materialize.reference? schema = some reference →
      docs.locate? (l.document.resolve reference) = some target → Leads docs target l' →
      Leads docs l l'

def Extends (docs docs' : Documents) : Prop := ∀ id d, docs id = some d → docs' id = some d

variable {docs docs' : Documents}

theorem Extends.refl (docs : Documents) : docs.Extends docs := fun _ _ h => h

theorem Extends.trans {docs₁ docs₂ docs₃ : Documents} (h : docs₁.Extends docs₂)
    (h' : docs₂.Extends docs₃) : docs₁.Extends docs₃ :=
  fun id d hd => h' id d (h id d hd)

theorem Extends.schemaAt? (h : docs.Extends docs') {l : Location} {schema : Json}
    (hl : docs.schemaAt? l = some schema) : docs'.schemaAt? l = some schema := by
  obtain ⟨d, hd, hs⟩ := Option.bind_eq_some_iff.1 hl
  exact Option.bind_eq_some_iff.2 ⟨d, h _ d hd, hs⟩

theorem Extends.locate? (h : docs.Extends docs') {uri : SchemaUri} {l : Location}
    (hl : docs.locate? uri = some l) : docs'.locate? uri = some l := by
  obtain ⟨d, hd, hs⟩ := Option.bind_eq_some_iff.1 hl
  exact Option.bind_eq_some_iff.2 ⟨d, h _ d hd, hs⟩

theorem Leads.mono (h : docs.Extends docs') {l l' : Location} (hl : docs.Leads l l') :
    docs'.Leads l l' := by
  induction hl with
  | here hs hr => exact .here (h.schemaAt? hs) hr
  | there hs hr ht _ ih => exact .there (h.schemaAt? hs) hr (h.locate? ht) ih

/-- From a reference on, the way is that of its target, also with only some of the documents. -/
theorem Leads.of_reference (h : docs.Extends docs') {l l' target : Location} {schema : Json}
    {reference : String} (hl : docs.Leads l l') (hschema : docs'.schemaAt? l = some schema)
    (hr : Materialize.reference? schema = some reference)
    (ht : docs'.locate? (l.document.resolve reference) = some target) : docs.Leads target l' := by
  cases hl with
  | here hs hr' =>
    rw [h.schemaAt? hs] at hschema
    cases hschema
    rw [hr] at hr'
    cases hr'
  | there hs hr' ht' hl =>
    rw [h.schemaAt? hs] at hschema
    cases hschema
    rw [hr] at hr'
    cases hr'
    rw [h.locate? ht'] at ht
    cases ht
    exact hl

theorem Leads.unique {l l₁ l₂ : Location} (h₁ : docs.Leads l l₁) (h₂ : docs.Leads l l₂) :
    l₁ = l₂ := by
  induction h₁ with
  | here hs hr =>
    cases h₂ with
    | here => rfl
    | there hs' hr' =>
      rw [hs] at hs'
      cases hs'
      rw [hr] at hr'
      cases hr'
  | there hs hr ht _ ih => exact ih (h₂.of_reference (.refl docs) hs hr ht)

theorem Leads.schemaAt? {l l' : Location} (h : docs.Leads l l') :
    ∃ schema, docs.schemaAt? l' = some schema ∧ Materialize.reference? schema = none := by
  induction h with
  | here hs hr => exact ⟨_, hs, hr⟩
  | there _ _ _ _ ih => exact ih

end Documents

/-! ## The resolver -/

namespace Resolver

/-- The documents that were fetched. -/
def known (r : Resolver) : Documents := r.documents.get?

/-- No document is forgotten. -/
def Grows (r r' : Resolver) : Prop := r.known.Extends r'.known

theorem Grows.refl (r : Resolver) : r.Grows r := fun _ _ h => h

theorem Grows.trans {r₁ r₂ r₃ : Resolver} (h : r₁.Grows r₂) (h' : r₂.Grows r₃) : r₁.Grows r₃ :=
  fun id d hd => h' id d (h id d hd)

theorem document_of_known {id : DocumentId} {d : Json} {r : Resolver} (h : r.known id = some d) :
    document id r = (.ok d, r) := by
  unfold known at h
  simp only [document, h]

theorem document_of_unknown {id : DocumentId} {r : Resolver} (h : r.known id = none) :
    document id r =
      match r.store.fetch id r.log with
      | (.error e, log) => (.error e, { r with log := log })
      | (.ok none, log) => (.error (.unresolvableAddress id.text), { r with log := log })
      | (.ok (some d), log) =>
        (.ok d, { r with log := log, documents := r.documents.put id d }) := by
  unfold known at h
  simp only [document, h]
  rcases r.store.fetch id r.log with ⟨_ | _ | d, log⟩ <;> rfl

theorem document_grows (id : DocumentId) : Action.Keeps Grows (document id) := by
  intro r
  rcases hr : r.known id with _ | d
  · rw [document_of_unknown hr]
    rcases r.store.fetch id r.log with ⟨_ | _ | d, log⟩
    · exact .refl r
    · exact .refl r
    · intro id' d' hd
      have hne : id ≠ id' := fun e => by
        rw [← e, hr] at hd
        cases hd
      exact (Entries.get?_put _ _ _ _).trans ((if_neg hne).trans hd)
  · rw [document_of_known hr]
    exact .refl r

theorem known_of_document {id : DocumentId} {d : Json} {r r' : Resolver}
    (h : document id r = (.ok d, r')) : r'.known id = some d := by
  rcases hr : r.known id with _ | d'
  · rw [document_of_unknown hr] at h
    rcases hf : r.store.fetch id r.log with ⟨_ | _ | d', log⟩ <;> rw [hf] at h <;> cases h
    exact (Entries.get?_put _ _ _ _).trans (if_pos rfl)
  · rw [document_of_known hr] at h
    cases h
    exact hr

theorem ofExcept_apply {α : Type} (x : Except SchemaError α) (r : Resolver) :
    (liftM x : Resolve α) r = (x, r) := by
  cases x <;> rfl

theorem keeps_ofExcept {α : Type} (x : Except SchemaError α) :
    Action.Keeps Grows (liftM x : Resolve α) := by
  intro r
  rw [ofExcept_apply]
  exact .refl r

theorem schemaAt_grows (l : Location) : Action.Keeps Grows (schemaAt l) :=
  (document_grows _).bind Grows.trans fun _ => keeps_ofExcept _

theorem schemaAt?_of_schemaAt {l : Location} {schema : Json} {r r' : Resolver}
    (h : schemaAt l r = (.ok schema, r')) : r'.known.schemaAt? l = some schema := by
  obtain ⟨d, r₁, hd, h⟩ := Action.of_bind_ok h
  rw [ofExcept_apply, Prod.mk.injEq] at h
  obtain ⟨hl, rfl⟩ := h
  exact Option.bind_eq_some_iff.2 ⟨d, known_of_document hd, by rw [hl]; rfl⟩

theorem resolve_grows (uri : SchemaUri) : Action.Keeps Grows (resolve uri) :=
  (document_grows _).bind Grows.trans fun _ => (keeps_ofExcept _).bind Grows.trans fun _ =>
    (keeps_ofExcept _).bind Grows.trans fun _ => Grows.refl

theorem locate?_of_resolve {uri : SchemaUri} {l : Location} {r r' : Resolver}
    (h : resolve uri r = (.ok l, r')) : r'.known.locate? uri = some l := by
  obtain ⟨d, r₁, hd, h⟩ := Action.of_bind_ok h
  obtain ⟨l', r₂, hl, h⟩ := Action.of_bind_ok h
  rw [ofExcept_apply, Prod.mk.injEq] at hl
  obtain ⟨hl, rfl⟩ := hl
  obtain ⟨schema, r₃, hs, h⟩ := Action.of_bind_ok h
  rw [ofExcept_apply, Prod.mk.injEq] at hs
  obtain ⟨-, rfl⟩ := hs
  cases h
  exact Option.bind_eq_some_iff.2 ⟨d, known_of_document hd, by rw [hl]; rfl⟩

end Resolver

namespace Materialize

open Resolver

theorem followAliases_grows : ∀ (steps : Nat) (passed : List Location) (l : Location),
    Action.Keeps Grows (followAliases steps passed l)
  | 0, _, _ => Grows.refl
  | steps + 1, passed, l => by
    refine (schemaAt_grows l).bind Grows.trans fun schema => ?_
    split
    · exact Grows.refl
    · split_ifs
      · exact Grows.refl
      · exact (resolve_grows _).bind Grows.trans fun target =>
          followAliases_grows steps (l :: passed) target

theorem leads_of_followAliases : ∀ {steps : Nat} {passed : List Location} {l l' : Location}
    {r r' : Resolver}, followAliases steps passed l r = (.ok l', r') → r'.known.Leads l l'
  | 0, _, _, _, _, _, h => by cases h
  | steps + 1, passed, l, l', r, r', h => by
    obtain ⟨schema, r₁, hs, h⟩ := Action.of_bind_ok h
    have hschema := schemaAt?_of_schemaAt hs
    rcases hr : reference? schema with _ | reference <;> simp only [hr] at h
    · cases h
      exact .here hschema hr
    · split_ifs at h
      · cases h
      · obtain ⟨target, r₂, ht, h⟩ := Action.of_bind_ok h
        have hgrow₂ := resolve_grows (l.document.resolve reference) r₁
        have hgrow := followAliases_grows steps (l :: passed) target r₂
        rw [ht] at hgrow₂
        rw [h] at hgrow
        exact .there (Documents.Extends.schemaAt? (hgrow₂.trans hgrow) hschema) hr
          (Documents.Extends.locate? hgrow (locate?_of_resolve ht)) (leads_of_followAliases h)

theorem schemaBehind_grows (steps : Nat) (l : Location) :
    Action.Keeps Grows (schemaBehind steps l) :=
  (followAliases_grows steps [] l).bind Grows.trans fun l' =>
    (schemaAt_grows l').bind Grows.trans fun _ => Grows.refl

theorem leads_of_schemaBehind {steps : Nat} {l : Location} {p : Location × Json} {r r' : Resolver}
    (h : schemaBehind steps l r = (.ok p, r')) :
    r'.known.Leads l p.1 ∧ r'.known.schemaAt? p.1 = some p.2 := by
  obtain ⟨l', r₁, hl, h⟩ := Action.of_bind_ok h
  obtain ⟨schema, r₂, hs, h⟩ := Action.of_bind_ok h
  cases h
  have hgrow := schemaAt_grows l' r₁
  rw [hs] at hgrow
  exact ⟨(leads_of_followAliases hl).mono hgrow, schemaAt?_of_schemaAt hs⟩

end Materialize

end JsonTypes
