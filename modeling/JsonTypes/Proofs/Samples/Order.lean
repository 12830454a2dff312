import JsonTypes.Proofs.Samples.Depth
import JsonTypes.Proofs.Samples.Emission

/-!
# The order of samples does not matter

A shape is emitted as one node after the other, each of which may be there already, so the types of
two emissions are at different places of different graphs. What they unfold to is given by the
shape alone (`Shape.Emitted`), and where two shapes hold the same values in different orders it is
the same (`Shape.Emitted.bisimilar`).
-/

namespace JsonTypes

namespace Shape

variable {c : InferenceConfig} {g g' : Graph} {s s' : Shape} {t t' : TypeRef}

/-! ## What emitting leaves in the graph -/

/-- The type came of emitting the shape, and the graph has grown from there. -/
def Emitted (c : InferenceConfig) (g : Graph) (s : Shape) (t : TypeRef) : Prop :=
  ∃ fresh g₀, Graph.Exact g₀ ∧ (emit c fresh s g₀).1 = t ∧ (emit c fresh s g₀).2.Extends g

theorem Emitted.mono (h : Emitted c g s t) (hg : g.Extends g') : Emitted c g' s t := by
  obtain ⟨fresh, g₀, h₀, ht, hext⟩ := h
  exact ⟨fresh, g₀, h₀, ht, hext.trans hg⟩

/-- A node that stands for several, each of which has a type if they are more than one. -/
inductive Combined (g : Graph) : List Node → Node → Prop
  | any : Combined g [] .any
  | one (n : Node) : Combined g [n] n
  | union {nodes types} : 2 ≤ nodes.length → List.Forall₂ (fun n t => g.node? t = some n) nodes types →
      Combined g nodes (.union (.ofList types))

/-- The node for the elements of all arrays. -/
inductive ArrayNodes (c : InferenceConfig) (g : Graph) : Option Shape → List Node → Prop
  | empty : ArrayNodes c g none []
  | array {i : Shape} {u : TypeRef} : Emitted c g i u → ArrayNodes c g (some i) [.array u]

/-- The properties of an object, with a type for the shape of each. -/
structure PropertyTypes (c : InferenceConfig) (g : Graph) (records : Nat) (ps : List (String × Shape))
    (types : List (String × Property)) : Prop where
  keys : Entries.keys types = Entries.keys ps
  typed : ∀ k p, Entries.get? types k = some p → ∃ s, Entries.get? ps k = some s ∧
    p.optional = decide (s.occurrences < records) ∧ Emitted c g s p.type

theorem emitItems_nodes (items : Option Shape) (hg : g.Exact) :
    ArrayNodes c (emitItems c items g).2 items (emitItems c items g).1 := by
  cases items with
  | none => exact .empty
  | some s => exact .array ⟨false, g, hg, rfl, .refl _⟩

theorem emitProperties_types (records : Nat) (ps : List (String × Shape)) (hg : g.Exact) :
    PropertyTypes c (emitProperties c records ps g).2 records ps (emitProperties c records ps g).1 := by
  induction ps generalizing g with
  | nil => exact ⟨rfl, fun _ _ hp => by cases hp⟩
  | cons entry rest ih =>
    obtain ⟨key, s⟩ := entry
    have hs := emit_grown (c := c) false s hg
    have hrest := ih hs.exact
    rw [emitProperties_cons]
    refine ⟨congrArg (key :: ·) hrest.keys, fun k p hp => ?_⟩
    simp only [Entries.get?] at hp ⊢
    by_cases hk : key = k
    · rw [if_pos hk] at hp ⊢
      cases hp
      have hkept := emitProperties_keeps (c := c) extends_kept records rest _ hs.exact
      exact ⟨s, rfl, rfl, false, g, hg, rfl, hkept.rel⟩
    · rw [if_neg hk] at hp ⊢
      exact hrest.typed k p hp

theorem ArrayNodes.mono {items : Option Shape} {nodes : List Node} (h : ArrayNodes c g items nodes)
    (hg : g.Extends g') : ArrayNodes c g' items nodes := by
  cases h with
  | empty => exact .empty
  | array h => exact .array (h.mono hg)

theorem PropertyTypes.mono {records : Nat} {ps : List (String × Shape)}
    {types : List (String × Property)} (h : PropertyTypes c g records ps types)
    (hg : g.Extends g') : PropertyTypes c g' records ps types where
  keys := h.keys
  typed k p hp := by
    obtain ⟨s, hs, ho, hp⟩ := h.typed k p hp
    exact ⟨s, hs, ho, hp.mono hg⟩

theorem Combined.mono {nodes : List Node} {n : Node} (h : Combined g nodes n) (hg : g.Extends g') :
    Combined g' nodes n := by
  cases h with
  | any => exact .any
  | one n => exact .one n
  | union hlen h => exact .union hlen (h.imp fun _ _ => hg _ _)

theorem internAll_nodes : ∀ (nodes : List Node) {g : Graph}, g.Exact →
    List.Forall₂ (fun n t => (Sink.internAll nodes g).2.node? t = some n) nodes
      (Sink.internAll nodes g).1
  | [], _, _ => .nil
  | n :: rest, _, hg =>
    have hn := Graph.intern_exact (n := n) hg
    .cons ((Graph.internAll_grown rest hn).kept _ _ (Graph.node?_intern hg))
      (internAll_nodes rest hn)

theorem combine_combined (nodes : List Node) (hg : g.Exact) :
    Combined (combine nodes g).2 nodes (combine nodes g).1 := by
  rcases nodes with _ | ⟨n, _ | ⟨m, rest⟩⟩
  · exact .any
  · exact .one n
  · exact .union (Nat.le_add_left 2 _) (internAll_nodes (n :: m :: rest) hg)

/-- The node of a type that came of a shape. -/
theorem Emitted.exists_node (h : Emitted c g s t) : ∃ arrays types n,
    ArrayNodes c g s.items arrays ∧ PropertyTypes c g s.records s.properties types ∧
    Combined g (s.scalars.nodes c ++ arrays ++
      if s.records = 0 then [] else [.object (.ofList types)]) n ∧ g.node? t = some n := by
  obtain ⟨fresh, g₀, h₀, rfl, hext⟩ := h
  rw [emit_eq] at hext ⊢
  have hi := (emitItems_keeps (c := c) extends_kept s.items g₀ h₀).grown
  have hp := (emitProperties_keeps (c := c) extends_kept s.records s.properties _ hi.exact).grown
  have harrays := emitItems_nodes (c := c) s.items h₀
  have htypes := emitProperties_types (c := c) s.records s.properties hi.exact
  simp only at hext ⊢
  generalize emitItems c s.items g₀ = arrays at *
  generalize emitProperties c s.records s.properties arrays.2 = types at *
  generalize hnodes : s.scalars.nodes c ++ arrays.1 ++ _ = nodes at *
  have hc := combine_grown nodes hp.exact
  have hn := (addNode_grown fresh (combine nodes types.2).1 hc.exact).kept.trans hext
  exact ⟨arrays.1, types.1, _, harrays.mono (hp.kept.trans (hc.kept.trans hn)),
    htypes.mono (hc.kept.trans hn), hnodes ▸ (combine_combined nodes hp.exact).mono hn,
    hext _ _ (node?_addNode fresh _ hc.exact)⟩

/-! ## Shapes of the same values -/

theorem nodes_match (scalars : ScalarShape) {R : TypeRef → TypeRef → Prop} :
    List.Forall₂ (Node.Matches R) (scalars.nodes c) (scalars.nodes c) :=
  List.forall₂_same.2 fun _ hn => (Node.matches_leaf (isLeaf_of_mem_nodes hn)).2 rfl

/-- Types of nodes that match in turn stand for each other. -/
theorem nodes_types {nodes nodes' : List Node} {types types' : List TypeRef}
    (hm : List.Forall₂ (Node.Matches (g.Bisimilar g')) nodes nodes')
    (h : List.Forall₂ (fun n t => g.node? t = some n) nodes types)
    (h' : List.Forall₂ (fun n t => g'.node? t = some n) nodes' types') :
    (∀ m ∈ types, ∃ m' ∈ types', g.Bisimilar g' m m') ∧
      ∀ m' ∈ types', ∃ m ∈ types, g.Bisimilar g' m m' := by
  induction hm generalizing types types' with
  | nil =>
    cases h
    cases h'
    exact ⟨nofun, nofun⟩
  | cons hn _ ih =>
    cases h with
    | cons ht hrest =>
      cases h' with
      | cons ht' hrest' =>
        obtain ⟨hl, hr⟩ := ih hrest hrest'
        have hb := Graph.Bisimilar.of_matches ht ht' hn
        simp only [List.mem_cons, forall_eq_or_imp, exists_eq_or_imp]
        exact ⟨⟨.inl hb, fun m hm => .inr (hl m hm)⟩, .inl hb, fun m' hm' => .inr (hr m' hm')⟩

theorem Combined.matches {nodes nodes' : List Node} {n n' : Node}
    (hm : List.Forall₂ (Node.Matches (g.Bisimilar g')) nodes nodes') (h : Combined g nodes n)
    (h' : Combined g' nodes' n') : n.Matches (g.Bisimilar g') n' := by
  have hlen := hm.length_eq
  cases h with
  | any =>
    cases h' with
    | any => exact (Node.matches_leaf rfl).2 rfl
    | one | union _ _ => simp at hlen <;> omega
  | one n =>
    cases h' with
    | one n' => exact (List.forall₂_cons.1 hm).1
    | any => simp at hlen
    | union hlen' _ => simp at hlen; omega
  | union hle hts =>
    cases h' with
    | union _ hts' =>
      obtain ⟨hl, hr⟩ := nodes_types hm hts hts'
      refine ⟨fun m hm => ?_, fun m' hm' => ?_⟩
      · obtain ⟨m', hm', hb⟩ := hl m (SortedSet.mem_ofList.1 hm)
        exact ⟨m', SortedSet.mem_ofList.2 hm', hb⟩
      · obtain ⟨m, hm, hb⟩ := hr m' (SortedSet.mem_ofList.1 hm')
        exact ⟨m, SortedSet.mem_ofList.2 hm, hb⟩
    | any => simp at hlen; simp [hlen] at hle
    | one => simp at hlen; omega

theorem ArrayNodes.matches {items items' : Option Shape} {nodes nodes' : List Node}
    (h : ArrayNodes c g items nodes) (h' : ArrayNodes c g' items' nodes')
    (hnone : items = none ↔ items' = none)
    (hi : ∀ i i' t t', items = some i → items' = some i' → Emitted c g i t → Emitted c g' i' t' →
      g.Bisimilar g' t t') :
    List.Forall₂ (Node.Matches (g.Bisimilar g')) nodes nodes' := by
  cases h with
  | empty =>
    cases h' with
    | empty => exact .nil
    | array _ => simp at hnone
  | array ht =>
    cases h' with
    | empty => simp at hnone
    | array ht' => exact .cons (hi _ _ _ _ rfl rfl ht ht') .nil

theorem PropertyTypes.matches {records : Nat} {ps ps' : List (String × Shape)}
    {types types' : List (String × Property)} (h : PropertyTypes c g records ps types)
    (h' : PropertyTypes c g' records ps' types') (hn : (Entries.keys ps).Nodup)
    (hn' : (Entries.keys ps').Nodup) (hkeys : ∀ k, k ∈ Entries.keys ps ↔ k ∈ Entries.keys ps')
    (hp : ∀ k p p', Entries.get? ps k = some p → Entries.get? ps' k = some p' →
      p.occurrences = p'.occurrences ∧
        ∀ t t', Emitted c g p t → Emitted c g' p' t' → g.Bisimilar g' t t') :
    (Node.object (.ofList types)).Matches (g.Bisimilar g') (.object (.ofList types')) := by
  have hget : ∀ k, (SortedMap.ofList types).get? k = Entries.get? types k :=
    SortedMap.get?_ofList (show (Entries.keys types).Nodup from h.keys ▸ hn)
  have hget' : ∀ k, (SortedMap.ofList types').get? k = Entries.get? types' k :=
    SortedMap.get?_ofList (show (Entries.keys types').Nodup from h'.keys ▸ hn')
  refine ⟨fun k => ?_, fun k p p' hk hk' => ?_⟩
  · rw [hget, hget', Entries.get?_eq_none_iff, Entries.get?_eq_none_iff, h.keys, h'.keys, hkeys]
  · obtain ⟨s, hs, ho, ht⟩ := h.typed k p (hget k ▸ hk)
    obtain ⟨s', hs', ho', ht'⟩ := h'.typed k p' (hget' k ▸ hk')
    obtain ⟨hocc, htypes⟩ := hp k s s' hs hs'
    exact ⟨by rw [ho, ho', hocc], htypes _ _ ht ht'⟩

theorem Holds.occurrences {vs : List Json} (h : Holds c s vs) : s.occurrences = vs.length := by
  obtain ⟨-, -, hocc, -, -, -, -, -, -, -⟩ := h
  exact hocc

theorem Emitted.bisimilar {vs vs' : List Json} (hs : Holds c s vs) (hs' : Holds c s' vs')
    (hp : vs.Perm vs') (h : Emitted c g s t) (h' : Emitted c g' s' t') : g.Bisimilar g' t t' := by
  induction hs generalizing s' vs' t t' with
  | @intro s vs _ _ harrays hobjects _ hscalars hnone _ hrecords hnodup hkeys hprops ihitems
      ihprops =>
    obtain ⟨rfl, rfl, -, hscalars', hnone', hitems', hrecords', hnodup', hkeys', hprops'⟩ := hs'
    subst harrays hobjects
    obtain ⟨arrays, types, n, ha, hty, hn, ht⟩ := h.exists_node
    obtain ⟨arrays', types', n', ha', hty', hn', ht'⟩ := h'.exists_node
    have hparrays := hp.filterMap Json.array?
    have hpobjects := hp.filterMap Json.object?
    have hpmembers := hpobjects.flatten
    rw [hscalars.nodes_eq hscalars' hp] at hn
    have hrec := hrecords.trans (hpobjects.length_eq.trans hrecords'.symm)
    rw [← hrec] at hty' hn'
    have hnone : s.items = none ↔ s'.items = none := by
      rw [hnone, hnone', ← List.length_eq_zero_iff, hparrays.length_eq, List.length_eq_zero_iff]
    have hkeys : ∀ k, k ∈ Entries.keys s.properties ↔ k ∈ Entries.keys s'.properties := fun k => by
      rw [hkeys, hkeys', Entries.keys, Entries.keys, (hpmembers.map _).mem_iff]
    have hmatch := ha.matches ha' hnone fun i i' u u' hi hi' hu hu' =>
      ihitems i hi (hitems' i' hi') hparrays.flatten hu hu'
    have hobject := hty.matches hty' hnodup hnodup' hkeys fun k p p' hk hk' => by
      have hunder := Json.under_perm k hpmembers
      have hp' := hprops' k p' hk'
      refine ⟨?_, fun u u' => ihprops k p hk hp' hunder⟩
      rw [(hprops k p hk).occurrences, hp'.occurrences, hunder.length_eq]
    refine .of_matches ht ht' (Combined.matches ?_ hn hn')
    refine List.rel_append (List.rel_append (nodes_match _) hmatch) ?_
    split_ifs
    · exact .nil
    · exact .cons hobject .nil

end Shape

/-! ## Top levels -/

open Shape

variable {c : InferenceConfig} {g g' : Graph} {fresh : Bool} {samples samples' : List Json}
  {t t' : TypeRef}

/-- The type came of emitting a shape of the samples. -/
def Inferred (c : InferenceConfig) (g : Graph) (samples : List Json) (t : TypeRef) : Prop :=
  ∃ s, Holds c s samples ∧ Emitted c g s t

theorem Inferred.mono (h : Inferred c g samples t) (hg : g.Extends g') : Inferred c g' samples t := by
  obtain ⟨s, hs, ht⟩ := h
  exact ⟨s, hs, ht.mono hg⟩

theorem Inferred.bisimilar (hp : samples.Perm samples') (h : Inferred c g samples t)
    (h' : Inferred c g' samples' t') : g.Bisimilar g' t t' := by
  obtain ⟨s, hs, ht⟩ := h
  obtain ⟨s', hs', ht'⟩ := h'
  exact ht.bisimilar hs hs' hp ht'

/-- Inference fails without samples and with one that is nested too deeply, and not otherwise. -/
theorem infer_cases (c : InferenceConfig) (fresh : Bool) (samples : List Json) (hg : g.Exact) :
    (samples = [] ∧ infer c fresh samples g = (.error .noSamples, g)) ∨
      (samples ≠ [] ∧ (∃ v ∈ samples, c.maxDepth < v.height) ∧
        infer c fresh samples g = (.error (tooDeep c), g)) ∨
      (samples ≠ [] ∧ (∀ v ∈ samples, v.height ≤ c.maxDepth) ∧
        ∃ t g', infer c fresh samples g = (.ok t, g') ∧ g.Grown g' ∧
          g'.topLevels = g.topLevels ∧ Inferred c g' samples t) := by
  refine (infer_split c fresh samples g).imp_right (Or.imp_right ?_)
  rintro ⟨hne, hfit, s, hs, h⟩
  exact ⟨hne, hfit, _, _, h, emit_grown fresh s hg, topLevels_emit fresh s g, s,
    addAll_holds samples .empty s [] (holds_empty c) hs, fresh, g, hg, rfl, .refl _⟩

/-- The same error, or types that unfold alike in the graphs that are left. -/
def SameType : Except InferenceError TypeRef × Graph → Except InferenceError TypeRef × Graph → Prop
  | (.ok t, g), (.ok t', g') => g.Bisimilar g' t t'
  | (.error e, _), (.error e', _) => e = e'
  | _, _ => False

theorem infer_sameType (hp : samples.Perm samples') (hg : g.Exact) (hg' : g'.Exact) :
    SameType (infer c fresh samples g) (infer c fresh samples' g') := by
  rcases infer_cases c fresh samples hg with ⟨rfl, h⟩ | ⟨hne, ⟨v, hv, hlt⟩, h⟩ |
    ⟨hne, hfit, t, g₁, h, -, -, ht⟩
  · cases List.nil_perm.1 hp
    rw [h]
    rcases infer_cases c fresh [] hg' with ⟨-, h'⟩ | ⟨hne', -⟩ | ⟨hne', -⟩
    · rw [h']
      rfl
    · exact absurd rfl hne'
    · exact absurd rfl hne'
  · rw [h]
    rcases infer_cases c fresh samples' hg' with ⟨rfl, -⟩ | ⟨-, -, h'⟩ | ⟨-, hfit', -⟩
    · exact absurd (List.perm_nil.1 hp) hne
    · rw [h']
      rfl
    · exact absurd hlt (Nat.not_lt.2 (hfit' v (hp.mem_iff.1 hv)))
  · rw [h]
    rcases infer_cases c fresh samples' hg' with ⟨rfl, -⟩ | ⟨-, ⟨v, hv, hlt⟩, -⟩ |
      ⟨-, -, t', g₁', h', -, -, ht'⟩
    · exact absurd (List.perm_nil.1 hp) hne
    · exact absurd hlt (Nat.not_lt.2 (hfit v (hp.mem_iff.2 hv)))
    · rw [h']
      exact ht.bisimilar hp ht'

end JsonTypes
