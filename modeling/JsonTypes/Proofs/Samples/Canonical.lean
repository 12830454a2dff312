import JsonTypes.Proofs.Samples.Depth
import JsonTypes.Proofs.Samples.Emission

/-!
# One type for each tree

Where graphs come of inference alone, they have layers (`Recorded.Layered`): the children of a node
come before it, and every type that was not added fresh is the one that the table of interned nodes
has for its node. By induction over the layers, two such types that unfold alike are the same
(`Recorded.Layered.eq_of_bisimilar`).

The table only gains entries, and emitting a shared type depends on the entries that it leaves
behind and on nothing else (`Shape.Repeats`). So however many inferences come in between, inferring
a shared type again finds it (`inferEach_canonical`).
-/

namespace JsonTypes

namespace Graph

/-- The table of interned nodes still has the entries. -/
def TableExtends (g g' : Graph) : Prop :=
  ∀ n t, g.interned.get? n = some t → g'.interned.get? n = some t

theorem TableExtends.refl (g : Graph) : g.TableExtends g := fun _ _ h => h

theorem TableExtends.trans {g₁ g₂ g₃ : Graph} (h : g₁.TableExtends g₂) (h' : g₂.TableExtends g₃) :
    g₁.TableExtends g₃ := fun n t ht => h' n t (h n t ht)

theorem intern_tableExtends (n : Node) (g : Graph) : g.TableExtends (intern n g).2 := by
  intro m t ht
  rw [get?_interned_intern, ht]
  rfl

end Graph

/-! ## Layers -/

namespace Recorded

variable {r r' : Recorded} {n : Node} {t t' : TypeRef}

/-- Children come before their nodes, and what was not added fresh is interned. -/
structure Layered (r : Recorded) : Prop where
  orderly : r.Orderly
  below : ∀ t n, r.graph.node? t = some n → ∀ u ∈ n.children, u < t
  interned : ∀ t, t < r.graph.size → ¬r.Own t → ∃ n, r.graph.interned.get? n = some t

theorem layered_empty : Layered ⟨.empty, []⟩ where
  orderly := orderly_empty
  below _ _ h := by cases h
  interned _ ht := absurd ht (Nat.not_lt_zero _)

/-- A node at the end of the arena is above all others. -/
theorem Layered.below_push (h : r.Layered) (hn : ∀ u ∈ n.children, r.Usable u)
    (table : Entries Node TypeRef) {m : Node}
    (ht : ({ r.graph with nodes := r.graph.nodes.push n, interned := table } : Graph).node? t =
      some m) : ∀ u ∈ m.children, u < t := by
  rw [Graph.node?_push] at ht
  split_ifs at ht with hlast
  · cases ht
    exact fun u hu => hlast ▸ (hn u hu).1
  · exact h.below t m ht

theorem Layered.intern (h : r.Layered) (hn : ∀ u ∈ n.children, r.Usable u) :
    (Sink.intern n r).2.Layered := by
  obtain ⟨horderly, hspares, -, -⟩ := h.orderly.intern hn
  have hold : ∀ u, u < r.graph.size → ¬(Sink.intern n r).2.Own u →
      ∃ m, r.graph.interned.get? m = some u := fun u hu hown =>
    h.interned u hu (mt (hspares.own_iff hu).2 hown)
  rcases hi : r.graph.interned.get? n with _ | t
  · have hgraph : (Sink.intern n r).2.graph = { r.graph with
        nodes := r.graph.nodes.push n, interned := r.graph.interned ++ [(n, r.graph.size)] } :=
      congrArg Prod.snd (Graph.intern_of_none hi)
    refine ⟨horderly, fun t m ht => h.below_push hn _ (hgraph ▸ ht), fun t ht hown => ?_⟩
    rcases Nat.lt_or_ge t r.graph.size with hlt | hge
    · obtain ⟨m, hm⟩ := hold t hlt hown
      exact ⟨m, Graph.intern_tableExtends n r.graph m t hm⟩
    · have hlast : t = r.graph.size := by
        rw [hgraph, Graph.size, Array.size_push] at ht
        exact Nat.le_antisymm (Nat.lt_succ_iff.1 ht) hge
      refine ⟨n, ?_⟩
      rw [hgraph, Entries.get?_append_single, hi, hlast]
      simp
  · have hgraph : (Sink.intern n r).2.graph = r.graph := congrArg Prod.snd (Graph.intern_of_get? hi)
    refine ⟨horderly, fun t m ht => h.below t m (hgraph ▸ ht), fun t ht hown => ?_⟩
    rw [hgraph] at ht ⊢
    exact hold t ht hown

theorem Layered.addFresh (h : r.Layered) (hn : ∀ u ∈ n.children, r.Usable u) :
    (Sink.addFresh n r).2.Layered := by
  have hpush := h.orderly.addFresh hn
  refine ⟨hpush.orderly, fun t m ht => h.below_push hn _ ht, fun t ht hown => ?_⟩
  rw [hpush.size_eq] at ht
  rcases Nat.lt_succ_iff_lt_or_eq.1 ht with hlt | rfl
  · exact h.interned t hlt (mt (hpush.spares.own_iff hlt).2 hown)
  · exact absurd ⟨n, hpush.history ▸ List.mem_cons_self⟩ hown

/-- Types that unfold alike and were not added fresh are the same type: their nodes point at types
further down, which are the same already. -/
theorem Layered.eq_of_bisimilar (h : r.Layered) (ht : t < r.graph.size) (ht' : t' < r.graph.size)
    (hown : ¬r.Own t) (hown' : ¬r.Own t') (hb : r.graph.Bisimilar r.graph t t') : t = t' := by
  induction t using Nat.strong_induction_on generalizing t' with
  | _ t ih =>
    obtain ⟨m, hm⟩ := h.interned t ht hown
    obtain ⟨m', hm'⟩ := h.interned t' ht' hown'
    have hnode := h.orderly.built.tidy.exact m t hm
    have hnode' := h.orderly.built.tidy.exact m' t' hm'
    obtain ⟨n, hn, hmatch⟩ := hb.exists_node hnode
    cases hnode'.symm.trans hn
    have heq : m = m' := hmatch.eq fun u hu u' hu' hbu => by
      obtain ⟨hlt, hfree⟩ := h.orderly.children t m hnode u hu
      obtain ⟨hlt', hfree'⟩ := h.orderly.children t' m' hnode' u' hu'
      exact ih u (h.below t m hnode u hu) hlt hlt' hfree hfree' hbu
    subst heq
    exact Option.some.inj (hm.symm.trans hm')

end Recorded

namespace Shape

open Recorded

variable {c : InferenceConfig} {r : Recorded}

theorem layered_kept : KeptByInterning Layered Spares Usable where
  refl := .refl
  trans hr h h' := h.trans hr.orderly h'
  mono h ht := h.usable ht
  intern n r hr hn := by
    obtain ⟨-, hspares, husable, -⟩ := hr.orderly.intern hn
    exact ⟨hr.intern hn, hspares, husable⟩

theorem emit_layered (fresh : Bool) (s : Shape) (hr : r.Layered) :
    (emit c fresh s r).2.Layered := by
  have hnode := emitNode_keeps (c := c) layered_kept s r hr
  rw [emit_eq_addNode]
  cases fresh with
  | false => exact hnode.inv.intern hnode.types
  | true => exact hnode.inv.addFresh hnode.types

/-! ## Emitting again -/

/-- The action answers the same wherever the entries are that it leaves, and changes nothing
there. -/
structure Repeats {α : Type} (x : Build α) : Prop where
  grows : ∀ g : Graph, g.TableExtends (x g).2
  again : ∀ g g' : Graph, (x g).2.TableExtends g' → x g' = ((x g).1, g')

theorem pure_repeats {α : Type} (a : α) : Repeats (pure a) := ⟨.refl, fun _ _ _ => rfl⟩

theorem Repeats.bind {α β : Type} {x : Build α} {f : α → Build β} (h : Repeats x)
    (hf : ∀ a, Repeats (f a)) : Repeats (x >>= f) where
  grows g := (h.grows g).trans ((hf _).grows _)
  again g g' hg := by
    have hx := h.again g g' (((hf _).grows _).trans hg)
    change f (x g').1 (x g').2 = _
    rw [hx]
    exact (hf _).again _ g' hg

theorem intern_repeats (n : Node) : Repeats (Sink.intern n) where
  grows := Graph.intern_tableExtends n
  again g _ hg := Graph.intern_of_get? (hg n _ (Graph.get?_interned_intern_self n g))

theorem internAll_repeats : ∀ nodes : List Node, Repeats (Sink.internAll nodes)
  | [] => pure_repeats []
  | n :: rest => (intern_repeats n).bind fun _ => (internAll_repeats rest).bind fun _ => pure_repeats _

theorem combine_repeats (nodes : List Node) : Repeats (combine nodes) := by
  rcases nodes with _ | ⟨n, _ | ⟨m, rest⟩⟩
  · exact pure_repeats Node.any
  · exact pure_repeats n
  · exact (internAll_repeats _).bind fun _ => pure_repeats _

theorem Repeats.share {s : Shape} (h : Repeats (emitNode c s)) : Repeats (emit c false s) := by
  have hemit : (emit c false s : Build TypeRef) = emitNode c s >>= Sink.intern :=
    funext fun g => emit_eq_addNode false s g
  exact hemit ▸ h.bind intern_repeats

mutual

theorem emitNode_repeats : ∀ s : Shape, Repeats (emitNode c s)
  | ⟨_, _, items, records, properties⟩ =>
    (emitItems_repeats items).bind fun _ =>
      (emitProperties_repeats records properties).bind fun _ => combine_repeats _

theorem emitItems_repeats : ∀ items : Option Shape, Repeats (emitItems c items)
  | none => pure_repeats []
  | some s => by
    simp only [emitItems]
    exact (emitNode_repeats s).share.bind fun _ => pure_repeats _

theorem emitProperties_repeats : ∀ (records : Nat) (ps : List (String × Shape)),
    Repeats (emitProperties c records ps)
  | _, [] => pure_repeats []
  | records, (k, s) :: rest => by
    simp only [emitProperties]
    refine (emitNode_repeats s).share.bind fun t => ?_
    exact (emitProperties_repeats records rest).bind fun _ => pure_repeats _

end

theorem emit_tableExtends (fresh : Bool) (s : Shape) (g : Graph) :
    g.TableExtends (emit c fresh s g).2 := by
  have hnode := (emitNode_repeats (c := c) s).grows g
  rw [emit_eq_addNode]
  cases fresh with
  | false => exact hnode.trans (Graph.intern_tableExtends _ _)
  | true => exact hnode

end Shape

/-! ## Any number of inferences -/

section Inferences

variable {c : InferenceConfig} {samples : List Json} {t : TypeRef}

/-- A shared type is found again wherever the table has all that inferring it put there. -/
theorem infer_again {g g' : Graph} (h : (infer c false samples g).1 = .ok t)
    (hg : (infer c false samples g).2.TableExtends g') : infer c false samples g' = (.ok t, g') := by
  rcases infer_split c false samples g with ⟨-, he⟩ | ⟨-, -, he⟩ | ⟨hne, hfit, s, hs, he⟩ <;>
    rw [he] at h hg
  · cases h
  · cases h
  · cases h
    have hrepeat := (Shape.emitNode_repeats s).share.again g g' hg
    rcases infer_split c false samples g' with ⟨hnil, -⟩ | ⟨-, ⟨v, hv, hdeep⟩, -⟩ |
      ⟨-, -, s', hs', he'⟩
    · exact absurd hnil hne
    · exact absurd hdeep (Nat.not_lt.2 (hfit v hv))
    · cases hs.symm.trans hs'
      rw [he', hrepeat]

/-- A call for a top level, which may be one that is shared with no other. -/
structure Inference where
  config : InferenceConfig
  distinct : Bool
  samples : List Json

section Run

variable {σ : Type} [Sink σ]

def Inference.run (call : Inference) : TryBuild σ InferenceError TypeRef :=
  if call.distinct then inferDistinctTopLevel call.config call.samples
  else inferTopLevel call.config call.samples

/-- Makes all calls in turn. One that fails does not stop the others. -/
def inferEach (calls : List Inference) (sink : σ) : σ :=
  calls.foldl (fun sink call => (call.run sink).2) sink

theorem inferEach_cons (call : Inference) (rest : List Inference) (sink : σ) :
    inferEach (call :: rest) sink = inferEach rest
      (infer call.config (call.distinct || call.config.fixedTopLevels) call.samples sink).2 := by
  change inferEach rest (call.run sink).2 = _
  unfold Inference.run
  cases call.distinct <;> rfl

theorem inferEach_append (calls more : List Inference) (sink : σ) :
    inferEach (calls ++ more) sink = inferEach more (inferEach calls sink) :=
  List.foldl_append

/-- What every inference keeps, all of them keep. -/
theorem inferEach_keeps {P : σ → Prop} (hP : ∀ c fresh samples (sink : σ), P sink →
    P (infer c fresh samples sink).2) (calls : List Inference) {sink : σ} (h : P sink) :
    P (inferEach calls sink) := by
  induction calls generalizing sink with
  | nil => exact h
  | cons call rest ih =>
    rw [inferEach_cons]
    exact ih (hP _ _ _ sink h)

end Run

theorem inferEach_layered (calls : List Inference) {r : Recorded} (hr : r.Layered) :
    (inferEach calls r).Layered :=
  inferEach_keeps (fun _ fresh samples _ h => infer_keeps samples h fun s =>
    Shape.emit_layered fresh s h) calls hr

theorem inferEach_tableExtends (calls : List Inference) (g : Graph) :
    g.TableExtends (inferEach calls g) :=
  inferEach_keeps (fun _ fresh samples sink h => infer_keeps samples h fun s =>
    h.trans (Shape.emit_tableExtends fresh s sink)) calls (.refl g)

theorem inferEach_records (calls : List Inference) (r : Recorded) :
    (inferEach calls r).graph = inferEach calls r.graph := by
  induction calls generalizing r with
  | nil => rfl
  | cons call rest ih => rw [inferEach_cons, inferEach_cons, Shape.infer_records, ih]

/-- Whatever inferences make a graph from the empty one, nodes point at types before them that were
not added fresh, and two types that were not added fresh and unfold alike are the same. A shared
type that was inferred at any time is found by inferring it again, which changes nothing. -/
theorem inferEach_canonical (calls : List Inference) :
    let r := inferEach calls (⟨.empty, []⟩ : Recorded)
    let g := inferEach calls Graph.empty
    r.graph = g ∧
    (∀ t n, g.node? t = some n → ∀ u ∈ n.children, u < t ∧ ¬r.Own u) ∧
    (∀ t t', t < g.size → t' < g.size → ¬r.Own t → ¬r.Own t' → g.Bisimilar g t t' → t = t') ∧
    ∀ before after c samples t, calls = before ++ ⟨c, false, samples⟩ :: after →
      c.fixedTopLevels = false →
      (inferTopLevel c samples (inferEach before Graph.empty)).1 = .ok t →
      inferTopLevel c samples g = (.ok t, g) := by
  intro r g
  have hgraph : r.graph = g := inferEach_records calls _
  have hlayered : r.Layered := inferEach_layered calls Recorded.layered_empty
  refine ⟨hgraph, fun t n hn u hu => ?_, fun t t' ht ht' hown hown' hb => ?_, ?_⟩
  · rw [← hgraph] at hn
    exact ⟨hlayered.below t n hn u hu, (hlayered.orderly.children t n hn u hu).2⟩
  · rw [← hgraph] at ht ht' hb
    exact hlayered.eq_of_bisimilar ht ht' hown hown' hb
  · rintro before after c samples t rfl hfixed ht
    unfold inferTopLevel at ht ⊢
    rw [hfixed] at ht ⊢
    have hg : g = inferEach after (infer c false samples (inferEach before Graph.empty)).2 := by
      change inferEach _ _ = _
      rw [inferEach_append, inferEach_cons, hfixed]
      rfl
    rw [hg]
    exact infer_again ht (inferEach_tableExtends after _)

/-- The same sample shared, on its own and with fixed top levels, and a call that fails. -/
def revisits : List Inference :=
  let samples := [.object [("id", .int 1)]]
  [⟨.default, false, samples⟩, ⟨.default, true, samples⟩, ⟨.default, false, []⟩,
    ⟨.withFixedTopLevels .default true, false, samples⟩]

/-- The types on their own have the node of the shared one, which is the one that is found. -/
theorem inferEach_canonical_revisits :
    let g := inferEach revisits Graph.empty
    g.size = 4 ∧ g.node? 2 = g.node? 1 ∧ g.node? 3 = g.node? 1 ∧
      inferTopLevel .default [.object [("id", .int 1)]] g = (.ok 1, g) := by
  obtain ⟨-, -, -, h⟩ := inferEach_canonical revisits
  exact ⟨by decide +kernel, by decide +kernel, by decide +kernel,
    h [] _ .default _ 1 rfl rfl (by decide +kernel)⟩

end Inferences

end JsonTypes
