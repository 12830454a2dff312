import JsonTypes.Proofs.Graph.Conformance
import JsonTypes.Proofs.Samples.Coverage

/-!
# Samples conform to the type inferred from them

Emitting a shape only adds to the graph, so what a part of the type accepts when it is made stays
accepted while the rest is made. By recursion over the shape, what the shape covers conforms to
the type it is emitted as (`emit_sound`).

With what a shape remembers of the values folded in, this gives the main statement
(`conforms_emit_feed`): whatever else is folded in before and after, successfully or not, a value
that was folded in successfully conforms to the emitted type.
-/

namespace JsonTypes

namespace Graph

/-- What adding nodes leaves as it was: the nodes that are there, and a table that is exact. -/
structure Grown (g g' : Graph) : Prop where
  kept : g.Extends g'
  exact : g'.Exact

theorem Grown.trans {g₁ g₂ g₃ : Graph} (h : g₁.Grown g₂) (h' : g₂.Grown g₃) : g₁.Grown g₃ :=
  ⟨h.kept.trans h'.kept, h'.exact⟩

theorem Exact.grown {g : Graph} (h : g.Exact) : g.Grown g := ⟨.refl g, h⟩

theorem internAll_grown : ∀ (nodes : List Node) {g : Graph}, g.Exact →
    g.Grown (Sink.internAll nodes g).2
  | [], _, h => h.grown
  | n :: rest, g, h =>
    .trans ⟨intern_extends n g, intern_exact h⟩ (internAll_grown rest (intern_exact h))

theorem exists_mem_internAll : ∀ (nodes : List Node) {g : Graph}, g.Exact → ∀ n ∈ nodes,
    ∃ t ∈ (Sink.internAll nodes g).1, (Sink.internAll nodes g).2.node? t = some n
  | n :: rest, g, h, m, hm => by
    rcases List.mem_cons.1 hm with rfl | hm
    · exact ⟨_, List.mem_cons_self,
        (internAll_grown rest (intern_exact h)).kept _ _ (node?_intern h)⟩
    · obtain ⟨t, ht, hn⟩ := exists_mem_internAll rest (intern_exact h) m hm
      exact ⟨t, List.mem_cons_of_mem _ ht, hn⟩

end Graph

/-! ## Scalars -/

theorem StringShape.Covers.accepts {s : StringShape} {text : String} (h : s.Covers text)
    (c : InferenceConfig) (g : Graph) : Accepts .strict g (.string text) (s.node c) := by
  unfold StringShape.node
  split
  · rename_i f hf
    exact fun _ _ _ ht => .format ht (h.format_eq f hf)
  · split_ifs with he
    · simp only [isEnumLike, Bool.and_eq_true, Bool.not_eq_true'] at he
      exact fun _ _ _ ht => .enum ht (SortedSet.mem_ofList.2 (h.mem_cases he.2.1.1))
    · exact fun _ _ _ ht => .string ht

theorem ScalarShape.Covers.exists_mem_nodes {s : ScalarShape} {v : Json} (h : s.Covers v)
    (c : InferenceConfig) : ∃ n ∈ s.nodes c, ∀ g, Accepts .strict g v n := by
  cases v with
  | null => exact ⟨.null, by simp_all [nodes, Covers], fun _ _ _ _ ht => .null ht⟩
  | bool b => exact ⟨.bool, by simp_all [nodes, Covers], fun _ _ _ _ ht => .bool ht⟩
  | number n =>
    by_cases hd : s.double = true
    · exact ⟨.double, by simp [nodes, hd], fun _ _ _ _ ht => .double ht⟩
    · cases n with
      | integer i => exact ⟨.integer, by simp_all [nodes, Covers], fun _ _ _ _ ht => .integer ht⟩
      | double d => exact absurd h hd
  | string text =>
    obtain ⟨strings, hs, ht⟩ := h
    exact ⟨strings.node c, by simp [nodes, hs], ht.accepts c⟩
  | array xs => exact h.elim
  | object members => exact h.elim

namespace Shape

/-! ## Emitting -/

theorem combine_grown (nodes : List Node) {g : Graph} (h : g.Exact) :
    g.Grown (combine nodes g).2 := by
  rcases nodes with _ | ⟨n, _ | ⟨m, rest⟩⟩
  · exact h.grown
  · exact h.grown
  · exact Graph.internAll_grown (n :: m :: rest) h

theorem combine_accepts {nodes : List Node} {g : Graph} (h : g.Exact) {v : Json} {n : Node}
    (hn : n ∈ nodes) (hv : Accepts .strict g v n) :
    Accepts .strict (combine nodes g).2 v (combine nodes g).1 := by
  rcases nodes with _ | ⟨n₁, _ | ⟨n₂, rest⟩⟩
  · cases hn
  · rw [List.mem_singleton] at hn
    exact hn ▸ hv
  · obtain ⟨t, ht, hnode⟩ := Graph.exists_mem_internAll (n₁ :: n₂ :: rest) h n hn
    exact .union ht (hv _ t (combine_grown (n₁ :: n₂ :: rest) h).kept hnode)

theorem addNode_grown (fresh : Bool) (n : Node) {g : Graph} (h : g.Exact) :
    g.Grown (addNode fresh n g).2 := by
  unfold addNode
  split_ifs
  · exact ⟨Graph.addFresh_extends n g, Graph.addFresh_exact h⟩
  · exact ⟨Graph.intern_extends n g, Graph.intern_exact h⟩

theorem node?_addNode (fresh : Bool) (n : Node) {g : Graph} (h : g.Exact) :
    (addNode fresh n g).2.node? (addNode fresh n g).1 = some n := by
  unfold addNode
  split_ifs
  · exact Graph.node?_addFresh n g
  · exact Graph.node?_intern h

variable (c : InferenceConfig)

/-- What emitting makes of a property: it is optional if it came up less often than objects did,
and its type has what its shape covers. -/
structure Typed (g : Graph) (records : Nat) (s : Shape) (p : Property) : Prop where
  optional_eq : p.optional = decide (s.occurrences < records)
  conforms : ∀ v, Covers s v → Conforms .strict g v p.type

theorem object_accepts {g : Graph} {s : Shape} {types : List (String × Property)}
    (hkeys : Entries.keys types = Entries.keys s.properties)
    (hn : (Entries.keys s.properties).Nodup)
    (ht : ∀ k p, Entries.get? types k = some p →
      ∃ s', Entries.get? s.properties k = some s' ∧ Typed g s.records s' p)
    {members : List (String × Json)}
    (hm : ∀ k x, (k, x) ∈ members → Covers (at_ s.properties k) x)
    (ha : ∀ k, k ∉ Entries.keys members → (at_ s.properties k).occurrences < s.records) :
    Accepts .strict g (.object members) (.object (.ofList types)) := by
  have hget : ∀ k, (SortedMap.ofList types).get? k = Entries.get? types k :=
    SortedMap.get?_ofList (show (Entries.keys types).Nodup from hkeys ▸ hn)
  refine .object (fun _ k hk => ?_) (fun k x p hx hp => ?_) fun k p hp hopt => ?_
  · obtain ⟨x, hx⟩ := Entries.mem_keys_iff.1 hk
    have hcov := hm k x (Entries.mem_of_get? hx)
    have hmem : k ∈ Entries.keys types := by
      rw [hkeys]
      by_contra hno
      rw [at_, Entries.get?_eq_none_of_not_mem hno] at hcov
      exact not_covers_empty x hcov
    obtain ⟨p, hp⟩ := Entries.mem_keys_iff.1 hmem
    exact ⟨p, (hget k).trans hp⟩
  · rw [hget] at hp
    obtain ⟨s', hs', htyped⟩ := ht k p hp
    have hcov := hm k x hx
    rw [at_, hs'] at hcov
    exact htyped.conforms x hcov
  · rw [hget] at hp
    obtain ⟨s', hs', htyped⟩ := ht k p hp
    by_contra hk
    have hlt := ha k hk
    rw [at_, hs'] at hlt
    rw [htyped.optional_eq, decide_eq_false_iff_not] at hopt
    exact hopt hlt

theorem emit_eq (fresh : Bool) (s : Shape) (g : Graph) :
    emit c fresh s g =
      (let arrays := emitItems c s.items g
       let types := emitProperties c s.records s.properties arrays.2
       let objects := if s.records = 0 then [] else [Node.object (.ofList types.1)]
       let n := combine (s.scalars.nodes c ++ arrays.1 ++ objects) types.2
       addNode fresh n.1 n.2) := by
  obtain ⟨_, scalars, items, records, properties⟩ := s
  rw [emit]
  rfl

theorem emitProperties_cons (records : Nat) (key : String) (s : Shape)
    (rest : List (String × Shape)) (g : Graph) :
    emitProperties c records ((key, s) :: rest) g =
      (let type := emit c false s g
       let more := emitProperties c records rest type.2
       ((key, ⟨type.1, s.occurrences < records⟩) :: more.1, more.2)) := rfl

mutual

theorem emit_sound : ∀ (fresh : Bool) (s : Shape) (g : Graph), g.Exact → Counted s →
    g.Grown (emit c fresh s g).2 ∧
      ∀ v, Covers s v → Conforms .strict (emit c fresh s g).2 v (emit c fresh s g).1
  | fresh, ⟨occurrences, scalars, items, records, properties⟩, g, hg, hs => by
    obtain ⟨hi, hn, -, hp⟩ := hs
    obtain ⟨hgi, hitems⟩ := emitItems_sound items g hg hi
    obtain ⟨hgp, hkeys, htypes⟩ := emitProperties_sound records properties _ hgi.exact hn hp
    rw [emit_eq]
    simp only
    generalize emitItems c items g = arrays at *
    generalize emitProperties c records properties arrays.2 = types at *
    generalize hnodes : scalars.nodes c ++ arrays.1 ++ _ = nodes
    have hgc := combine_grown nodes hgp.exact
    refine ⟨hgi.trans (hgp.trans (hgc.trans (addNode_grown fresh _ hgc.exact))), fun v hv => ?_⟩
    suffices h : ∃ n ∈ nodes, Accepts .strict types.2 v n by
      obtain ⟨n, hmem, hacc⟩ := h
      exact combine_accepts hgp.exact hmem hacc _ _ (addNode_grown fresh _ hgc.exact).kept
        (node?_addNode fresh _ hgc.exact)
    subst hnodes
    cases hv with
    | scalar h =>
      obtain ⟨n, hmem, hacc⟩ := h.exists_mem_nodes c
      exact ⟨n, by simp [hmem], hacc _⟩
    | array hsome hx =>
      obtain ⟨i, rfl⟩ := Option.isSome_iff_exists.1 hsome
      obtain ⟨n, hmem, hacc⟩ := hitems i rfl
      exact ⟨n, by simp [hmem], (hacc _ hx).mono hgp.kept⟩
    | object hpos hm ha =>
      have hne : records ≠ 0 := Nat.ne_of_gt hpos
      exact ⟨.object (.ofList types.1), by simp [hne], object_accepts hkeys hn htypes hm ha⟩

theorem emitItems_sound : ∀ (items : Option Shape) (g : Graph), g.Exact →
    (∀ i, items = some i → Counted i) → g.Grown (emitItems c items g).2 ∧
      ∀ i, items = some i → ∃ n ∈ (emitItems c items g).1, ∀ xs : List Json,
        (∀ x ∈ xs, Covers i x) → Accepts .strict (emitItems c items g).2 (.array xs) n
  | none, _, hg, _ => ⟨hg.grown, nofun⟩
  | some s, g, hg, hs => by
    obtain ⟨hgs, hv⟩ := emit_sound false s g hg (hs s rfl)
    refine ⟨hgs, fun i hi => ⟨_, List.mem_singleton.2 rfl, fun xs hxs => ?_⟩⟩
    cases hi
    exact .array fun x hx => hv x (hxs x hx)

theorem emitProperties_sound : ∀ (records : Nat) (ps : List (String × Shape)) (g : Graph),
    g.Exact → (Entries.keys ps).Nodup → (∀ k s, Entries.get? ps k = some s → Counted s) →
      g.Grown (emitProperties c records ps g).2 ∧
      Entries.keys (emitProperties c records ps g).1 = Entries.keys ps ∧
      ∀ k p, Entries.get? (emitProperties c records ps g).1 k = some p →
        ∃ s, Entries.get? ps k = some s ∧ Typed (emitProperties c records ps g).2 records s p
  | _, [], _, hg, _, _ => ⟨hg.grown, rfl, nofun⟩
  | records, (key, s) :: rest, g, hg, hn, hs => by
    obtain ⟨hkey, hrest⟩ := List.nodup_cons.1 hn
    have hs' : ∀ k s, Entries.get? rest k = some s → Counted s := by
      intro k s' hk
      have hne : key ≠ k := fun e => hkey (e ▸ Entries.mem_keys_iff.2 ⟨s', hk⟩)
      exact hs k s' (by rw [Entries.get?, if_neg hne, hk])
    obtain ⟨hgs, hv⟩ := emit_sound false s g hg (hs key s (by rw [Entries.get?, if_pos rfl]))
    obtain ⟨hgr, hkeys, htypes⟩ := emitProperties_sound records rest _ hgs.exact hrest hs'
    rw [emitProperties_cons]
    refine ⟨hgs.trans hgr, congrArg (key :: ·) hkeys, fun k p hp => ?_⟩
    simp only [Entries.get?] at hp ⊢
    by_cases hk : key = k
    · rw [if_pos hk] at hp ⊢
      cases hp
      exact ⟨s, rfl, rfl, fun v hcov => (hv v hcov).mono hgr.kept⟩
    · rw [if_neg hk] at hp ⊢
      exact htypes k p hp

end

/-! ## Sequences of samples -/

/-- Folds in values in turn, each by its own settings, and goes on after a failure with what the
failed one left behind. -/
def feed (folds : List (InferenceConfig × Json)) (s : Shape) : Shape :=
  folds.foldl (fun s f => (add f.1 f.2 s).2) s

variable {folds : List (InferenceConfig × Json)} {s : Shape}

theorem feed_counted (hkeys : ∀ f ∈ folds, f.2.KeysDistinct) (hs : Counted s) :
    Counted (feed folds s) := by
  induction folds generalizing s with
  | nil => exact hs
  | cons f rest ih =>
    exact ih (fun f' hf' => hkeys f' (List.mem_cons_of_mem _ hf'))
      (addAt_counted f.1 f.2 0 s (hkeys f List.mem_cons_self) hs)

theorem feed_covers (hkeys : ∀ f ∈ folds, f.2.KeysDistinct) {v : Json} (hv : Covers s v) :
    Covers (feed folds s) v := by
  induction folds generalizing s with
  | nil => exact hv
  | cons f rest ih =>
    exact ih (fun f' hf' => hkeys f' (List.mem_cons_of_mem _ hf'))
      (addAt_covers f.1 f.2 0 s v (hkeys f List.mem_cons_self) hv)

theorem covers_feed {before after : List (InferenceConfig × Json)} {c : InferenceConfig} {v : Json}
    (hkeys : ∀ f ∈ before ++ (c, v) :: after, f.2.KeysDistinct)
    (hok : (add c v (feed before empty)).1 = .ok ()) :
    Covers (feed (before ++ (c, v) :: after) empty) v := by
  have hbefore : Counted (feed before empty) :=
    feed_counted (fun f hf => hkeys f (List.mem_append_left _ hf)) counted_empty
  have hv : v.KeysDistinct := hkeys (c, v) (List.mem_append_right _ List.mem_cons_self)
  have hadd := covers_of_addAt_ok c v 0 _ hv hbefore hok
  rw [feed, List.foldl_append, List.foldl_cons]
  exact feed_covers
    (fun f hf => hkeys f (List.mem_append_right _ (List.mem_cons_of_mem _ hf))) hadd

/-- Every value that was folded in successfully, at any place of a sequence of folds that may fail,
conforms to the type that the shape is emitted as, in any graph. -/
theorem conforms_emit_feed {before after : List (InferenceConfig × Json)} {c : InferenceConfig}
    {v : Json} (hkeys : ∀ f ∈ before ++ (c, v) :: after, f.2.KeysDistinct)
    (hok : (add c v (feed before empty)).1 = .ok ()) (settings : InferenceConfig) (fresh : Bool)
    {g : Graph} (hg : g.Reachable) :
    Conforms .strict (emit settings fresh (feed (before ++ (c, v) :: after) empty) g).2 v
      (emit settings fresh (feed (before ++ (c, v) :: after) empty) g).1 :=
  (emit_sound settings fresh _ g hg.exact (feed_counted hkeys counted_empty)).2 v
    (covers_feed hkeys hok)

/-- An array too deep for its settings comes first, and an object that lacks a key comes last. -/
theorem conforms_emit_feed_between :
    let before : List (InferenceConfig × Json) :=
      [(⟨true, true, false, 0⟩, .array [.null]), (.default, .object [("a", .bool true)])]
    let v : Json := .object [("a", .int 1), ("b", .array [.string "x"])]
    let after : List (InferenceConfig × Json) := [(.default, .object [("b", .array [])])]
    let g : Graph := (Graph.intern (.array 0) .empty).2
    (∀ f ∈ before ++ (InferenceConfig.default, v) :: after, f.2.KeysDistinct) ∧
      (add .default v (feed before empty)).1 = .ok () ∧ g.Reachable ∧
      Conforms .strict
        (emit .default false (feed (before ++ (InferenceConfig.default, v) :: after) empty) g).2 v
        (emit .default false (feed (before ++ (InferenceConfig.default, v) :: after) empty)
          g).1 := by
  intro before v after g
  have hkeys : ∀ f ∈ before ++ (InferenceConfig.default, v) :: after, f.2.KeysDistinct := by
    simp [before, v, after, Json.KeysDistinct, Json.KeysDistinctAll, Json.KeysDistinctMembers,
      Json.int]
  have hok : (add .default v (feed before empty)).1 = .ok () := by rfl
  have hg : g.Reachable := ⟨_, Recorded.Built.intern (.array 0) .empty trivial⟩
  exact ⟨hkeys, hok, hg, conforms_emit_feed hkeys hok .default false hg⟩

end Shape

end JsonTypes
