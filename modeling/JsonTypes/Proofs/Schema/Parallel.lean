import JsonTypes.Proofs.Schema.Keywords
import JsonTypes.Proofs.Schema.Yields

/-!
# Plans that go in parallel

If types of two graphs correspond one to one, so do the nodes that match (`Node.Matches.biUnique`):
a node has one match at most, so nodes are equal just where their matches are.

Two plans go in parallel (`Plan.Parallel`) if they ask the same questions as long as they get
answers that correspond, and then make of them what corresponds. The plan of a schema goes in
parallel with itself (`planFor_parametric`). It takes a relation that is one to one for that, since
equal nodes are kept once, and which ones are equal depends on their types.
-/

namespace JsonTypes

namespace Node

open Relator

variable {R S : TypeRef → TypeRef → Prop} {n m n' m' : Node}

theorem Matches.biUnique (hR : BiUnique R) : BiUnique (Matches R) :=
  ⟨fun _ _ _ h h' => h.unique_left (fun _ _ _ ht ht' => hR.1 ht ht') h',
    fun _ _ _ h h' => h.unique (fun _ _ _ ht ht' => hR.2 ht ht') h'⟩

/-! ## Making nodes -/

theorem matches_union_ofList {ts ts' : List TypeRef} (h : List.Forall₂ R ts ts') :
    (union (.ofList ts)).Matches R (union (.ofList ts')) := by
  refine ⟨fun t ht => ?_, fun t' ht' => ?_⟩
  · obtain ⟨t', ht', hr⟩ := h.exists_of_mem_left (SortedSet.mem_ofList.1 ht)
    exact ⟨t', SortedSet.mem_ofList.2 ht', hr⟩
  · obtain ⟨t, ht, hr⟩ := h.exists_of_mem_right (SortedSet.mem_ofList.1 ht')
    exact ⟨t, SortedSet.mem_ofList.2 ht, hr⟩

/-- Properties of one name, with types that correspond. -/
structure SameProperty (R : TypeRef → TypeRef → Prop) (e e' : String × Property) : Prop where
  name : e.1 = e'.1
  optional : e.2.optional = e'.2.optional
  type : R e.2.type e'.2.type

theorem Matches.insert {ps ps' : SortedMap String Property} {e e' : String × Property}
    (h : (object ps).Matches R (object ps')) (he : SameProperty R e e') :
    (object (ps.insert e.1 e.2)).Matches R (object (ps'.insert e'.1 e'.2)) := by
  refine ⟨fun k => ?_, fun k p p' hp hp' => ?_⟩
  · rw [SortedMap.get?_insert, SortedMap.get?_insert, ← he.name]
    split_ifs
    · simp
    · exact h.1 k
  · rw [SortedMap.get?_insert] at hp hp'
    rw [← he.name] at hp'
    split_ifs at hp hp'
    · cases hp
      cases hp'
      exact ⟨he.optional, he.type⟩
    · exact h.2 k p p' hp hp'

theorem matches_object_ofList {es es' : List (String × Property)}
    (h : List.Forall₂ (SameProperty R) es es') :
    (object (.ofList es)).Matches R (object (.ofList es')) := by
  have hfold : ∀ ps ps' : SortedMap String Property, (object ps).Matches R (object ps') →
      (object (es.foldl (fun m e => m.insert e.1 e.2) ps)).Matches R
        (object (es'.foldl (fun m e => m.insert e.1 e.2) ps')) := by
    induction h with
    | nil => exact fun _ _ h => h
    | cons he _ ih => exact fun ps ps' h => ih _ _ (h.insert he)
  exact hfold .empty .empty ⟨fun _ => Iff.rfl, fun _ _ _ hp => by cases hp⟩

end Node


namespace Materialize

variable {R : TypeRef → TypeRef → Prop}

namespace Plan

/-- The plans ask the same, up to types that the relation pairs, and end with results that are
related. -/
inductive Parallel (R : TypeRef → TypeRef → Prop) {α β : Type} (Q : α → β → Prop) :
    Plan α → Plan β → Prop
  | done {a b} : Q a b → Parallel R Q (.done a) (.done b)
  | fail {e} : Parallel R Q (.fail e) (.fail e)
  | typeAt {l next next'} : (∀ t t', R t t' → Parallel R Q (next t) (next' t')) →
      Parallel R Q (.typeAt l next) (.typeAt l next')
  | schemaBehind {l next next'} : (∀ s, Parallel R Q (next s) (next' s)) →
      Parallel R Q (.schemaBehind l next) (.schemaBehind l next')
  | share {n n' next next'} : n.Matches R n' →
      (∀ t t', R t t' → Parallel R Q (next t) (next' t')) →
      Parallel R Q (.share n next) (.share n' next')

variable {α β γ δ : Type} {Q : α → β → Prop} {Q' : γ → δ → Prop}

theorem parallel_pure {a : α} {b : β} (h : Q a b) : (pure a : Plan α).Parallel R Q (pure b) :=
  .done h

theorem Parallel.bind {p : Plan α} {p' : Plan β} {f : α → Plan γ} {f' : β → Plan δ}
    (h : p.Parallel R Q p') (hf : ∀ a b, Q a b → (f a).Parallel R Q' (f' b)) :
    (p >>= f).Parallel R Q' (p' >>= f') := by
  induction h with
  | done h => exact hf _ _ h
  | fail => exact .fail
  | typeAt _ ih => exact .typeAt ih
  | schemaBehind _ ih => exact .schemaBehind ih
  | share hn _ ih => exact .share hn ih

theorem parallel_askType (l : Location) : (askType l).Parallel R R (askType l) :=
  .typeAt fun _ _ => .done

theorem parallel_askSchema (l : Location) : (askSchema l).Parallel R Eq (askSchema l) :=
  .schemaBehind fun _ => .done rfl

theorem parallel_askShared {n n' : Node} (h : n.Matches R n') :
    (askShared n).Parallel R R (askShared n') :=
  .share h fun _ _ => .done

theorem parallel_ofExcept (x : Except SchemaError α) :
    (ofExcept x).Parallel R Eq (ofExcept x) := by
  cases x with
  | ok a => exact .done rfl
  | error e => exact .fail

theorem parallel_askEach {ask : α → Plan γ} {ask' : β → Plan δ}
    (h : ∀ a b, Q a b → (ask a).Parallel R Q' (ask' b)) {as : List α} {bs : List β}
    (hs : List.Forall₂ Q as bs) :
    (askEach ask as).Parallel R (List.Forall₂ Q') (askEach ask' bs) := by
  induction hs with
  | nil => exact parallel_pure .nil
  | cons hab _ ih =>
    exact (h _ _ hab).bind fun c d hcd => ih.bind fun cs ds hs => parallel_pure (.cons hcd hs)

/-- The same items, asked for in the same way. -/
theorem parallel_askEach_self {S : β → β → Prop} {ask : α → Plan β}
    (h : ∀ a, (ask a).Parallel R S (ask a)) (as : List α) :
    (askEach ask as).Parallel R (List.Forall₂ S) (askEach ask as) :=
  parallel_askEach (Q := Eq) (fun a _ he => he ▸ h a) (List.forall₂_refl as)

/-- What plans that go in parallel yield is related, if their answers correspond. -/
theorem Parallel.yields {A B : Answers} {p : Plan α} {p' : Plan β} {a : α} {b : β}
    (h : p.Parallel R Q p') (htype : ∀ l t t', A.type l t → B.type l t' → R t t')
    (hschema : ∀ l s s', A.schema l s → B.schema l s' → s = s')
    (hshared : ∀ n n' t t', n.Matches R n' → A.shared n t → B.shared n' t' → R t t')
    (ha : p.Yields A a) (hb : p'.Yields B b) : Q a b := by
  induction ha generalizing p' with
  | done a =>
    cases h with
    | done h => exact yields_done.1 hb ▸ h
  | typeAt ht _ ih =>
    cases h with
    | typeAt h =>
      cases hb with
      | typeAt ht' hb => exact ih (h _ _ (htype _ _ _ ht ht')) hb
  | schemaBehind hs _ ih =>
    cases h with
    | schemaBehind h =>
      cases hb with
      | schemaBehind hs' hb => exact ih (h _) (hschema _ _ _ hs hs' ▸ hb)
  | share hn _ ih =>
    cases h with
    | share hm h =>
      cases hb with
      | share hn' hb => exact ih (h _ _ (hshared _ _ _ _ hm hn hn')) hb

end Plan

open Plan

/-! ## Plans for nodes -/

theorem propertyPlan_parallel (required : List String) (p : String × Location) :
    (propertyPlan required p).Parallel R (Node.SameProperty R) (propertyPlan required p) :=
  (parallel_askType p.2).bind fun _ _ ht => parallel_pure ⟨rfl, rfl, ht⟩

/-- The plan asks the same questions wherever answers correspond, and ends with nodes that match. -/
abbrev Plan.Parametric (R : TypeRef → TypeRef → Prop) (p : Plan Node) : Prop :=
  p.Parallel R (Node.Matches R) p

theorem parametric_leaf {n : Node} (hn : n.isLeaf = true) : Plan.Parametric R (pure n) :=
  parallel_pure ((Node.matches_leaf hn).2 rfl)

theorem objectPlan_parametric (sources : List Source) : Plan.Parametric R (objectPlan sources) := by
  unfold objectPlan Plan.Parametric
  simp only
  split_ifs
  · rcases (ObjectRules.ofSources sources).additional with _ | l
    · have hany := parallel_askShared (R := R) ((Node.matches_leaf (n := .any) rfl).2 rfl)
      exact hany.bind fun t t' ht => parallel_pure ht
    · exact (parallel_askType l).bind fun t t' ht => parallel_pure ht
  · refine (parallel_askEach_self (propertyPlan_parallel _) _).bind fun es es' hes => ?_
    exact parallel_pure (Node.matches_object_ofList hes)

theorem arrayPlan_parametric (schema : List (String × Json)) (l : Location) :
    Plan.Parametric R (arrayPlan schema l) := by
  have hone : Plan.Parametric R (askType (l.push "items") >>= fun t => pure (Node.array t)) :=
    (parallel_askType _).bind fun t t' ht => parallel_pure ht
  have hany : Plan.Parametric R (askShared .any >>= fun t => pure (Node.array t)) :=
    (parallel_askShared ((Node.matches_leaf rfl).2 rfl)).bind fun t t' ht => parallel_pure ht
  unfold arrayPlan
  rcases Entries.get? schema "items" with _ | _ | b | _ | _ | ⟨_ | ⟨item, rest⟩⟩ | ms
  case some.bool => exact hone
  case some.object => exact hone
  case some.array.cons =>
    refine (parallel_askEach_self parallel_askType _).bind fun ts ts' hts => ?_
    refine (parallel_askShared (Node.matches_union_ofList hts)).bind fun t t' ht => ?_
    exact parallel_pure ht
  all_goals exact hany

theorem planForType_parametric (type : String) (schema : List (String × Json))
    (sources : List Source) (l : Location) :
    Plan.Parametric R (planForType type schema sources l) := by
  unfold planForType
  split
  case h_6 => exact arrayPlan_parametric schema l
  case h_7 => exact objectPlan_parametric sources
  case h_8 => exact .fail
  all_goals exact parametric_leaf rfl

/-- What is kept of one list is kept of the other, since equal nodes have equal matches. -/
theorem forall₂_foldl_pushUnique (hR : Relator.BiUnique R) {ns ns' : List Node}
    (h : List.Forall₂ (Node.Matches R) ns ns') :
    List.Forall₂ (Node.Matches R) (ns.foldl pushUnique []) (ns'.foldl pushUnique []) := by
  have hfold : ∀ ms ms', List.Forall₂ (Node.Matches R) ms ms' →
      List.Forall₂ (Node.Matches R) (ns.foldl pushUnique ms) (ns'.foldl pushUnique ms') := by
    induction h with
    | nil => exact fun _ _ h => h
    | @cons n n' _ _ hn _ ih =>
      intro ms ms' hms
      have hmem : n ∈ ms ↔ n' ∈ ms' := List.rel_mem (Node.Matches.biUnique hR) hn hms
      refine ih _ _ ?_
      unfold pushUnique
      rw [← if_congr hmem rfl rfl]
      split_ifs
      · exact hms
      · exact List.rel_append hms (.cons hn .nil)
  exact hfold [] [] .nil

theorem ownPlan_parallel (hR : Relator.BiUnique R) (schema : List (String × Json))
    (sources : List Source) (l : Location) :
    (ownPlan schema sources l).Parallel R (List.Forall₂ (Node.Matches R))
      (ownPlan schema sources l) := by
  unfold ownPlan
  split
  · refine parallel_pure (forall₂_foldl_pushUnique hR (List.forall₂_same.2 fun n hn => ?_))
    exact (Node.matches_leaf (isLeaf_of_mem_literalNodes hn)).2 rfl
  · refine (parallel_ofExcept _).bind fun types _ he => ?_
    subst he
    have htypes := fun type => planForType_parametric (R := R) type schema sources l
    exact (parallel_askEach_self htypes types).bind fun ns ns' hns =>
      parallel_pure (forall₂_foldl_pushUnique hR hns)

theorem combine_parallel {options options' : List TypeRef} {ns ns' : List Node}
    (ho : List.Forall₂ R options options') (hn : List.Forall₂ (Node.Matches R) ns ns') :
    (combine options ns).Parallel R (Node.Matches R) (combine options' ns') := by
  have hunion : Plan.Parallel R (Node.Matches R)
      (askEach askShared ns >>= fun ts => pure (Node.union (.ofList (options ++ ts))))
      (askEach askShared ns' >>= fun ts => pure (Node.union (.ofList (options' ++ ts)))) :=
    (parallel_askEach (fun _ _ hm => parallel_askShared hm) hn).bind fun ts ts' hts =>
      parallel_pure (Node.matches_union_ofList (List.rel_append ho hts))
  cases ho with
  | nil =>
    cases hn with
    | nil => exact parametric_leaf rfl
    | cons hn hrest =>
      cases hrest with
      | nil => exact parallel_pure hn
      | cons => exact hunion
  | cons => exact hunion

/-- Wherever answers correspond one to one, the plan of a schema asks the same and ends with nodes
that match. -/
theorem planFor_parametric (hR : Relator.BiUnique R) (schema : Json) (l : Location) :
    Plan.Parametric R (planFor schema l) := by
  cases schema with
  | bool b => cases b <;> exact parametric_leaf rfl
  | object members =>
    refine (parallel_askEach_self parallel_askSchema _).bind fun parts _ he => ?_
    rw [List.forall₂_eq_eq_eq] at he
    subst he
    refine (parallel_askEach_self parallel_askType _).bind fun options options' ho => ?_
    exact (ownPlan_parallel hR members _ l).bind fun ns ns' hn => combine_parallel ho hn
  | _ => exact .fail

end Materialize

end JsonTypes
