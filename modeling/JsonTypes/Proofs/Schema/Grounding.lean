import JsonTypes.Proofs.Schema.Keywords
import JsonTypes.Proofs.Schema.Yields

/-!
# What the nodes of a run point at

A plan draws on its answers (`Plan.DrawsOn`): whatever is true of all types that it is answered, is
true of all children of the nodes that it shares and of the node that it results in
(`planFor_drawsOn`). No other type that happens to be there can be among them.

So a type is grounded in answers if it is the type of a location, or that of a shared node whose
children are grounded (`Answers.Grounded`), and plans only make nodes whose children are grounded
(`planFor_founded`).
-/

namespace JsonTypes.Materialize

/-- If all types that are answered are as wanted, so are those that the plan gives to the nodes it
shares, and its result. -/
def Plan.DrawsOn (P : TypeRef → Prop) {α : Type} (Q : α → Prop) : Plan α → Prop
  | .done a => Q a
  | .fail _ => True
  | .typeAt _ next => ∀ t, P t → (next t).DrawsOn P Q
  | .schemaBehind _ next => ∀ s, (next s).DrawsOn P Q
  | .share n next => (∀ c ∈ n.children, P c) ∧ ∀ t, P t → (next t).DrawsOn P Q

/-- The node only points at types that are as wanted. -/
def Over (P : TypeRef → Prop) (n : Node) : Prop := ∀ c ∈ n.children, P c

namespace Plan

variable {P : TypeRef → Prop} {α β : Type} {Q : α → Prop} {Q' : β → Prop}

theorem drawsOn_pure {a : α} (h : Q a) : (pure a : Plan α).DrawsOn P Q := h

theorem DrawsOn.bind {p : Plan α} {f : α → Plan β} (hp : p.DrawsOn P Q)
    (hf : ∀ a, Q a → (f a).DrawsOn P Q') : (p >>= f).DrawsOn P Q' := by
  induction p with
  | done a => exact hf a hp
  | fail e => trivial
  | typeAt l next ih => exact fun t ht => ih t (hp t ht)
  | schemaBehind l next ih => exact fun s => ih s (hp s)
  | share n next ih => exact ⟨hp.1, fun t ht => ih t (hp.2 t ht)⟩

theorem drawsOn_askType (l : Location) : (askType l).DrawsOn P P := fun _ ht => ht

theorem drawsOn_askSchema (l : Location) : (askSchema l).DrawsOn P fun _ => True := fun _ => trivial

theorem drawsOn_askShared {n : Node} (hn : Over P n) : (askShared n).DrawsOn P P :=
  ⟨hn, fun _ ht => ht⟩

theorem drawsOn_ofExcept (x : Except SchemaError α) : (ofExcept x).DrawsOn P fun _ => True := by
  cases x <;> trivial

theorem drawsOn_askEach {ask : α → Plan β} : ∀ {as : List α},
    (∀ a ∈ as, (ask a).DrawsOn P Q') → (askEach ask as).DrawsOn P fun bs => ∀ b ∈ bs, Q' b
  | [], _ => drawsOn_pure nofun
  | a :: rest, h => by
    refine (h a List.mem_cons_self).bind fun b hb => ?_
    refine (drawsOn_askEach fun a' ha' => h a' (List.mem_cons_of_mem _ ha')).bind fun bs hbs => ?_
    exact drawsOn_pure (List.forall_mem_cons.2 ⟨hb, hbs⟩)

theorem drawsOn_askTypes (ls : List Location) :
    (askEach askType ls).DrawsOn P fun ts => ∀ t ∈ ts, P t :=
  drawsOn_askEach fun l _ => drawsOn_askType l

end Plan

open Plan

section Over

variable {P : TypeRef → Prop}

theorem over_union {ts : List TypeRef} (h : ∀ t ∈ ts, P t) :
    Over P (.union (.ofList ts)) :=
  fun t ht => h t (SortedSet.mem_ofList.1 ht)

theorem over_array {t : TypeRef} (ht : P t) : Over P (.array t) :=
  fun _ hc => List.mem_singleton.1 hc ▸ ht

theorem over_map {t : TypeRef} (ht : P t) : Over P (.map t) :=
  fun _ hc => List.mem_singleton.1 hc ▸ ht

theorem over_of_children {n : Node} (h : n.children = []) : Over P n := by
  intro t ht
  rw [h] at ht
  cases ht

theorem objectPlan_drawsOn (sources : List Source) : (objectPlan sources).DrawsOn P (Over P) := by
  unfold objectPlan
  simp only
  split_ifs
  · rcases (ObjectRules.ofSources sources).additional with _ | l
    · exact (drawsOn_askShared (over_of_children rfl)).bind fun t ht => drawsOn_pure (over_map ht)
    · exact (drawsOn_askType l).bind fun t ht => drawsOn_pure (over_map ht)
  · have hproperties : ∀ p ∈ (ObjectRules.ofSources sources).properties,
        (propertyPlan (ObjectRules.ofSources sources).required p).DrawsOn P
          fun e => P e.2.type :=
      fun p _ => (drawsOn_askType p.2).bind fun t ht => drawsOn_pure ht
    refine (drawsOn_askEach hproperties).bind fun ps hps => drawsOn_pure fun t ht => ?_
    obtain ⟨e, he, rfl⟩ := List.mem_map.1 ht
    exact hps e (SortedMap.mem_of_mem_ofList he)

theorem arrayPlan_drawsOn (schema : List (String × Json)) (l : Location) :
    (arrayPlan schema l).DrawsOn P (Over P) := by
  have hone : (askType (l.push "items") >>= fun t => pure (Node.array t)).DrawsOn P (Over P) :=
    (drawsOn_askType _).bind fun t ht => drawsOn_pure (over_array ht)
  have hany : (askShared .any >>= fun t => pure (Node.array t)).DrawsOn P (Over P) :=
    (drawsOn_askShared (over_of_children rfl)).bind fun t ht => drawsOn_pure (over_array ht)
  unfold arrayPlan
  rcases Entries.get? schema "items" with _ | _ | b | _ | _ | ⟨_ | ⟨item, rest⟩⟩ | ms
  case some.bool => exact hone
  case some.object => exact hone
  case some.array.cons =>
    refine (drawsOn_askTypes _).bind fun members hmembers => ?_
    exact (drawsOn_askShared (over_union hmembers)).bind fun t ht => drawsOn_pure (over_array ht)
  all_goals exact hany

theorem planForType_drawsOn (type : String) (schema : List (String × Json))
    (sources : List Source) (l : Location) :
    (planForType type schema sources l).DrawsOn P (Over P) := by
  unfold planForType
  split
  case h_6 => exact arrayPlan_drawsOn schema l
  case h_7 => exact objectPlan_drawsOn sources
  case h_8 => exact trivial
  all_goals exact drawsOn_pure (over_of_children rfl)

theorem ownPlan_drawsOn (schema : List (String × Json)) (sources : List Source) (l : Location) :
    (ownPlan schema sources l).DrawsOn P fun ns => ∀ n ∈ ns, Over P n := by
  unfold ownPlan
  split
  · refine drawsOn_pure fun n hn => ?_
    have hmem := (mem_foldl_pushUnique.1 hn).resolve_right List.not_mem_nil
    exact over_of_children (Node.children_leaf (isLeaf_of_mem_literalNodes hmem))
  · refine (drawsOn_ofExcept _).bind fun types _ => ?_
    refine (drawsOn_askEach fun type _ => planForType_drawsOn type schema sources l).bind ?_
    intro nodes hnodes
    refine drawsOn_pure fun n hn => ?_
    exact hnodes n ((mem_foldl_pushUnique.1 hn).resolve_right List.not_mem_nil)

theorem combine_drawsOn {options : List TypeRef} {nodes : List Node}
    (ho : ∀ t ∈ options, P t) (hn : ∀ n ∈ nodes, Over P n) :
    (combine options nodes).DrawsOn P (Over P) := by
  unfold combine
  split
  · exact drawsOn_pure (over_of_children rfl)
  · exact drawsOn_pure (hn _ List.mem_cons_self)
  · refine (drawsOn_askEach fun n hmem => drawsOn_askShared (hn n hmem)).bind fun members hm => ?_
    refine drawsOn_pure (over_union fun t ht => ?_)
    rcases List.mem_append.1 ht with ht | ht
    · exact ho t ht
    · exact hm t ht

theorem planFor_drawsOn (schema : Json) (l : Location) :
    (planFor schema l).DrawsOn P (Over P) := by
  cases schema with
  | bool b =>
    cases b
    · exact drawsOn_pure (over_of_children rfl)
    · exact drawsOn_pure (over_of_children rfl)
  | object members =>
    refine (drawsOn_askEach fun l _ => drawsOn_askSchema l).bind fun parts _ => ?_
    refine (drawsOn_askTypes _).bind fun options ho => ?_
    exact (ownPlan_drawsOn members _ l).bind fun nodes hn => combine_drawsOn ho hn
  | _ => exact trivial

end Over

/-! ## Grounded types -/

/-- The type is an answer for a location, or for a node over such types. -/
inductive Answers.Grounded (A : Answers) : TypeRef → Prop
  | type {l t} : A.type l t → Grounded A t
  | shared {n t} : A.shared n t → (∀ c ∈ n.children, Grounded A c) → Grounded A t

def Answers.Founded (A : Answers) (n : Node) : Prop := ∀ t ∈ n.children, A.Grounded t

theorem Plan.DrawsOn.of_yields {A : Answers} {α : Type} {Q : α → Prop} {p : Plan α} {a : α}
    (hp : p.DrawsOn A.Grounded Q) (ha : p.Yields A a) : Q a := by
  induction ha with
  | done a => exact hp
  | typeAt ht _ ih => exact ih (hp _ (.type ht))
  | schemaBehind _ _ ih => exact ih (hp _)
  | share hn _ ih => exact ih (hp.2 _ (.shared hn hp.1))

theorem planFor_founded {A : Answers} {schema : Json} {l : Location} {n : Node}
    (h : (planFor schema l).Yields A n) : A.Founded n :=
  (planFor_drawsOn schema l).of_yields h

end JsonTypes.Materialize
