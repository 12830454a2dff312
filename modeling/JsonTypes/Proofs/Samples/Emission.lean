import JsonTypes.Proofs.Graph.Bisimilar
import JsonTypes.Proofs.Graph.Lifelines
import JsonTypes.Proofs.Samples.Soundness

/-!
# What emitting does to a sink

Emitting a shape as a shared type interns nodes, each over types that were answered before, and
does nothing else. So what interning such nodes keeps, emitting keeps (`Shape.Kept.emit`): that
the table of interned nodes is exact (`extends_kept`), the top levels (`topLevels_kept`), and the
order of recorded graphs (`spares_kept`). A type of its own only differs in its last call
(`Shape.emit_eq_addNode`).
-/

namespace JsonTypes.Shape

variable {c : InferenceConfig}

theorem StringShape.isLeaf_node (strings : StringShape) : (strings.node c).isLeaf = true := by
  unfold StringShape.node
  split
  · rfl
  · split_ifs <;> rfl

theorem isLeaf_of_mem_nodes {scalars : ScalarShape} {n : Node} (h : n ∈ scalars.nodes c) :
    n.isLeaf = true := by
  simp only [ScalarShape.nodes, List.mem_append] at h
  rcases h with ((h | h) | h) | h
  · split_ifs at h <;> simp_all [Node.isLeaf]
  · split_ifs at h <;> simp_all [Node.isLeaf]
  · split_ifs at h <;> simp_all [Node.isLeaf]
  · split at h
    · rw [List.mem_singleton.1 h]
      exact StringShape.isLeaf_node _
    · cases h

section Keeps

variable {σ : Type} [Sink σ]

/-- The node of a shape, which only its parts have types for. -/
def emitNode (c : InferenceConfig) (s : Shape) : StateM σ Node := do
  let arrays ← emitItems c s.items
  let types ← emitProperties c s.records s.properties
  let objects := if s.records = 0 then [] else [Node.object (.ofList types)]
  combine (s.scalars.nodes c ++ arrays ++ objects)

theorem emit_eq_addNode (fresh : Bool) (s : Shape) (sink : σ) :
    emit c fresh s sink = addNode fresh (emitNode c s sink).1 (emitNode c s sink).2 := by
  obtain ⟨_, scalars, items, records, properties⟩ := s
  rw [emit]
  rfl

/-- An invariant of sinks, a relation to the later ones, and what is true of the types that nodes
point at, if interning a node over such types keeps all three. -/
structure KeptByInterning (Inv : σ → Prop) (I : σ → σ → Prop) (P : σ → TypeRef → Prop) : Prop where
  refl : ∀ sink, I sink sink
  trans : ∀ {a b c : σ}, Inv a → I a b → I b c → I a c
  mono : ∀ {a b : σ} {t : TypeRef}, I a b → P a t → P b t
  intern : ∀ n sink, Inv sink → (∀ t ∈ n.children, P sink t) →
    Inv (Sink.intern n sink).2 ∧ I sink (Sink.intern n sink).2 ∧
      P (Sink.intern n sink).2 (Sink.intern n sink).1

/-- The later sink keeps the invariant and the relation, and has the types. -/
structure Kept (Inv : σ → Prop) (I : σ → σ → Prop) (P : σ → TypeRef → Prop) (sink : σ)
    (types : List TypeRef) (sink' : σ) : Prop where
  inv : Inv sink'
  rel : I sink sink'
  types : ∀ t ∈ types, P sink' t

variable {Inv : σ → Prop} {I : σ → σ → Prop} {P : σ → TypeRef → Prop}
  (hI : KeptByInterning Inv I P) {sink sink' sink'' : σ}

include hI

theorem kept_nil (h : Inv sink) : Kept Inv I P sink [] sink := ⟨h, hI.refl sink, nofun⟩

theorem Kept.append {types types' : List TypeRef} (hs : Inv sink)
    (h : Kept Inv I P sink types sink') (h' : Kept Inv I P sink' types' sink'') :
    Kept Inv I P sink (types ++ types') sink'' := by
  refine ⟨h'.inv, hI.trans hs h.rel h'.rel, fun t ht => ?_⟩
  rcases List.mem_append.1 ht with ht | ht
  · exact hI.mono h'.rel (h.types t ht)
  · exact h'.types t ht

theorem kept_intern {n : Node} (hs : Inv sink) (hn : ∀ t ∈ n.children, P sink t) :
    Kept Inv I P sink [(Sink.intern n sink).1] (Sink.intern n sink).2 := by
  obtain ⟨hinv, hrel, htype⟩ := hI.intern n sink hs hn
  exact ⟨hinv, hrel, fun t ht => List.mem_singleton.1 ht ▸ htype⟩

/-- What is kept up to the node of a shape is kept when the shape is emitted as a shared type. -/
theorem Kept.emit {s : Shape} (hs : Inv sink)
    (h : Kept Inv I P sink (emitNode c s sink).1.children (emitNode c s sink).2) :
    Kept Inv I P sink [(emit c false s sink).1] (emit c false s sink).2 := by
  rw [emit_eq_addNode]
  have hintern := kept_intern hI h.inv h.types
  exact ⟨hintern.inv, hI.trans hs h.rel hintern.rel, hintern.types⟩

theorem internAll_keeps : ∀ (nodes : List Node) (sink : σ), Inv sink →
    (∀ n ∈ nodes, ∀ t ∈ n.children, P sink t) →
      Kept Inv I P sink (Sink.internAll nodes sink).1 (Sink.internAll nodes sink).2
  | [], _, hs, _ => kept_nil hI hs
  | n :: rest, sink, hs, hn => by
    have hfirst := kept_intern hI hs (hn n List.mem_cons_self)
    refine hfirst.append hI hs (internAll_keeps rest _ hfirst.inv fun m hm t ht => ?_)
    exact hI.mono hfirst.rel (hn m (List.mem_cons_of_mem n hm) t ht)

theorem combine_keeps (nodes : List Node) (hs : Inv sink)
    (hn : ∀ n ∈ nodes, ∀ t ∈ n.children, P sink t) :
    Kept Inv I P sink (combine nodes sink).1.children (combine nodes sink).2 := by
  rcases nodes with _ | ⟨n, _ | ⟨m, rest⟩⟩
  · exact kept_nil hI hs
  · exact ⟨hs, hI.refl sink, hn n List.mem_cons_self⟩
  · obtain ⟨hinv, hrel, htypes⟩ := internAll_keeps hI (n :: m :: rest) sink hs hn
    exact ⟨hinv, hrel, fun t ht => htypes t (SortedSet.mem_ofList.1 ht)⟩

mutual

/-- The node of a shape has types for its parts only. -/
theorem emitNode_keeps : ∀ (s : Shape) (sink : σ), Inv sink →
    Kept Inv I P sink (emitNode c s sink).1.children (emitNode c s sink).2
  | ⟨_, scalars, items, records, properties⟩, sink, hs => by
    have hitems := emitItems_keeps items sink hs
    have hprops := emitProperties_keeps records properties _ hitems.inv
    have hboth := hitems.append hI hs hprops
    have hnodes := combine_keeps hI (scalars.nodes c ++ (emitItems c items sink).1 ++
      if records = 0 then [] else [.object (.ofList
        (emitProperties c records properties (emitItems c items sink).2).1)]) hboth.inv ?_
    · exact ⟨hnodes.inv, hI.trans hs hboth.rel hnodes.rel, hnodes.types⟩
    · intro n hn t ht
      rcases List.mem_append.1 hn with hn | hn
      · rcases List.mem_append.1 hn with hn | hn
        · rw [Node.children_leaf (isLeaf_of_mem_nodes hn)] at ht
          cases ht
        · exact hboth.types t (List.mem_append_left _ (List.mem_flatMap.2 ⟨n, hn, ht⟩))
      · split_ifs at hn
        · cases hn
        · cases List.mem_singleton.1 hn
          obtain ⟨e, he, rfl⟩ := List.mem_map.1 ht
          refine hboth.types _ (List.mem_append_right _ (List.mem_map.2 ⟨e, ?_, rfl⟩))
          exact SortedMap.mem_of_mem_ofList he

theorem emitItems_keeps : ∀ (items : Option Shape) (sink : σ), Inv sink →
    Kept Inv I P sink ((emitItems c items sink).1.flatMap Node.children) (emitItems c items sink).2
  | none, _, hs => kept_nil hI hs
  | some s, sink, hs => by
    have hitem := (emitNode_keeps s sink hs).emit hI hs
    exact ⟨hitem.inv, hitem.rel, hitem.types⟩

theorem emitProperties_keeps : ∀ (records : Nat) (ps : List (String × Shape)) (sink : σ),
    Inv sink → Kept Inv I P sink ((emitProperties c records ps sink).1.map (·.2.type))
      (emitProperties c records ps sink).2
  | _, [], _, hs => kept_nil hI hs
  | records, (k, s) :: rest, sink, hs => by
    have hproperty := (emitNode_keeps s sink hs).emit hI hs
    exact hproperty.append hI hs (emitProperties_keeps records rest _ hproperty.inv)

end

end Keeps

/-! ## Graphs -/

theorem extends_kept : KeptByInterning Graph.Exact Graph.Extends fun _ _ => True where
  refl := .refl
  trans _ h h' := h.trans h'
  mono _ _ := trivial
  intern n g hg _ := ⟨Graph.intern_exact hg, Graph.intern_extends n g, trivial⟩

theorem topLevels_kept :
    KeptByInterning (fun _ : Graph => True) (fun g g' => g'.topLevels = g.topLevels)
      fun _ _ => True where
  refl _ := rfl
  trans _ h h' := h'.trans h
  mono _ _ := trivial
  intern n g _ _ := by
    refine ⟨trivial, ?_, trivial⟩
    change (Graph.intern n g).2.topLevels = g.topLevels
    unfold Graph.intern
    split <;> rfl

section Graphs

variable {g g' : Graph} {types : List TypeRef}

theorem Kept.grown (h : Kept Graph.Exact Graph.Extends (fun _ _ => True) g types g') : g.Grown g' :=
  ⟨h.rel, h.inv⟩

theorem emit_grown (fresh : Bool) (s : Shape) (hg : g.Exact) : g.Grown (emit c fresh s g).2 := by
  have hn := (emitNode_keeps (c := c) extends_kept s g hg).grown
  rw [emit_eq_addNode]
  exact hn.trans (addNode_grown fresh _ hn.exact)

theorem topLevels_emit (fresh : Bool) (s : Shape) (g : Graph) :
    (emit c fresh s g).2.topLevels = g.topLevels := by
  rw [emit_eq_addNode]
  refine Eq.trans ?_ (emitNode_keeps (c := c) topLevels_kept s g trivial).rel
  cases fresh
  · exact (topLevels_kept.intern _ _ trivial fun _ _ => trivial).2.1
  · rfl

end Graphs

/-! ## Recorded graphs -/

open Recorded

theorem spares_kept : KeptByInterning Orderly Spares Usable where
  refl := .refl
  trans hr h h' := h.trans hr h'
  mono h ht := h.usable ht
  intern n r hr hn := by
    obtain ⟨hr', hspares, husable, -⟩ := hr.intern hn
    exact ⟨hr', hspares, husable⟩

theorem tops_kept : KeptByInterning (fun _ : Recorded => True) (fun r r' => r'.tops = r.tops)
    fun _ _ => True where
  refl _ := rfl
  trans _ h h' := h'.trans h
  mono _ _ := trivial
  intern _ _ _ _ := ⟨trivial, (tops_append rfl).trans (List.append_nil _), trivial⟩

/-- What emitting leaves: a type that was interned, or one of its own that has no name yet. -/
structure Emits (fresh : Bool) (r : Recorded) (t : TypeRef) (r' : Recorded) : Prop where
  orderly : r'.Orderly
  spares : r.Spares r'
  tops : r'.tops = r.tops
  own : fresh = true → r.graph.size ≤ t ∧ r'.namesOf t = [] ∧ ∃ n, r'.history t = [.addFresh n t]
  shared : fresh = false → r'.Shared t

theorem emit_emits (fresh : Bool) (s : Shape) {r : Recorded} (hr : r.Orderly) :
    Emits fresh r (emit c fresh s r).1 (emit c fresh s r).2 := by
  have hnode := emitNode_keeps (c := c) spares_kept s r hr
  have htops := (emitNode_keeps (c := c) tops_kept s r trivial).rel
  rw [emit_eq_addNode]
  generalize emitNode c s r = node at hnode htops ⊢
  cases fresh with
  | false =>
    obtain ⟨hr', hspares, -, hshared⟩ := hnode.inv.intern hnode.types
    have htops' := (tops_kept.intern node.1 node.2 trivial fun _ _ => trivial).2.1
    exact ⟨hr', hnode.rel.trans hr hspares, htops'.trans htops, nofun, fun _ => hshared⟩
  | true =>
    have hpush := hnode.inv.addFresh hnode.types
    refine ⟨hpush.orderly, hnode.rel.trans hr hpush.spares, ?_, fun _ => ?_, nofun⟩
    · exact ((tops_append rfl).trans (List.append_nil _)).trans htops
    · exact ⟨hnode.rel.size_le, hpush.namesOf, _, hpush.history⟩

/-- The action does to a recorded graph what the other one does to the graph alone. -/
def Records {α : Type} (x : StateM Recorded α) (y : Build α) : Prop :=
  ∀ r, y r.graph = ((x r).1, (x r).2.graph)

theorem Records.bind {α β : Type} {x : StateM Recorded α} {y : Build α}
    {f : α → StateM Recorded β} {f' : α → Build β} (h : Records x y)
    (hf : ∀ a, Records (f a) (f' a)) : Records (x >>= f) (y >>= f') := by
  intro r
  change f' (y r.graph).1 (y r.graph).2 = _
  rw [h r]
  exact hf (x r).1 (x r).2

theorem pure_records {α : Type} (a : α) : Records (pure a) (pure a) := fun _ => rfl

theorem internAll_records : ∀ nodes : List Node, Records (Sink.internAll nodes) (Sink.internAll nodes)
  | [] => pure_records []
  | n :: rest => by
    have hn : Records (Sink.intern n) (Sink.intern n) := fun _ => rfl
    exact hn.bind fun t => (internAll_records rest).bind fun _ => pure_records _

theorem combine_records (nodes : List Node) : Records (combine nodes) (combine nodes) := by
  rcases nodes with _ | ⟨n, _ | ⟨m, rest⟩⟩
  · exact pure_records Node.any
  · exact pure_records n
  · exact (internAll_records _).bind fun _ => pure_records _

theorem addNode_records (fresh : Bool) (n : Node) : Records (addNode fresh n) (addNode fresh n) := by
  cases fresh <;> exact fun _ => rfl

mutual

theorem emit_records (fresh : Bool) : ∀ s : Shape, Records (emit c fresh s) (emit c fresh s)
  | ⟨_, scalars, items, records, properties⟩ => by
    simp only [emit]
    refine (emitItems_records items).bind fun arrays => ?_
    refine (emitProperties_records records properties).bind fun types => ?_
    exact (combine_records _).bind fun n => addNode_records fresh n

theorem emitItems_records : ∀ items : Option Shape, Records (emitItems c items) (emitItems c items)
  | none => pure_records []
  | some s => by
    simp only [emitItems]
    exact (emit_records false s).bind fun _ => pure_records _

theorem emitProperties_records : ∀ (records : Nat) (ps : List (String × Shape)),
    Records (emitProperties c records ps) (emitProperties c records ps)
  | _, [] => pure_records []
  | records, (k, s) :: rest => by
    simp only [emitProperties]
    refine (emit_records false s).bind fun t => ?_
    exact (emitProperties_records records rest).bind fun _ => pure_records _

end

theorem infer_records (c : InferenceConfig) (fresh : Bool) (samples : List Json) (r : Recorded) :
    infer c fresh samples r.graph =
      ((infer c fresh samples r).1, (infer c fresh samples r).2.graph) := by
  unfold infer
  split_ifs
  · rfl
  rcases addAll c samples .empty with e | s
  · rfl
  · change (Except.ok (emit c fresh s r.graph).1, (emit c fresh s r.graph).2) = _
    rw [emit_records fresh s r]
    rfl

end JsonTypes.Shape
