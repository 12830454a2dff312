import JsonTypes.Proofs.Schema.Parallel
import JsonTypes.Proofs.Schema.Slots

/-!
# Types of two states that stand for the same

Two states, each with a graph and with slots for locations, pair their types (`Pairs`): the slots
of one location, and shared types whose nodes match as far as their types are paired already. The
pairs are one to one whatever slots are open (`Pairs.biUnique`), as a slot belongs to one location
and a shared node has one type.

Once no slot is open, the pairs are a bisimulation (`Pairs.bisimulation`): the slots of a location
hold what one plan yields, and the plan's answers in the two states are paired. Until then, plans
are in step (`InStep`) if they ask the same for whatever pairs are still to come.
-/

namespace JsonTypes.Materialize

variable {isOpen isOpen' : Location → Prop} {s s' : State Graph} {t t' t'' : TypeRef}

/-- The types are the slots of one location, or shared types of nodes that match. -/
inductive Pairs (s s' : State Graph) : TypeRef → TypeRef → Prop
  | slots {l t t'} : s.converted.get? l = some t → s'.converted.get? l = some t' → Pairs s s' t t'
  | shared {R : TypeRef → TypeRef → Prop} {n n' t t'} : (∀ a a', R a a' → Pairs s s' a a') →
      n.Matches R n' → s.sink.interned.get? n = some t → s'.sink.interned.get? n' = some t' →
      Pairs s s' t t'

namespace Pairs

theorem of_shared {n n' : Node} (h : n.Matches (Pairs s s') n')
    (hn : s.sink.interned.get? n = some t) (hn' : s'.sink.interned.get? n' = some t') :
    Pairs s s' t t' :=
  .shared (fun _ _ h => h) h hn hn'

theorem symm (h : Pairs s s' t t') : Pairs s' s t' t := by
  induction h with
  | slots hl hl' => exact .slots hl' hl
  | shared _ hm hn hn' ih => exact .shared (fun a' a h => ih a a' h) hm.symm hn' hn

theorem mono {s'' : State Graph} (hs : s'.Grows s'') (h : Pairs s s' t t') : Pairs s s'' t t' := by
  induction h with
  | slots hl hl' => exact .slots hl (hs.converted _ _ hl')
  | shared _ hm hn hn' ih => exact .shared ih hm hn (hs.shared _ _ hn')

theorem unique (hs : Sound isOpen s) (h : Pairs s s' t t') : Pairs s s' t t'' → t' = t'' := by
  -- No slot is shared, so both pairs are of one kind.
  induction h generalizing t'' with
  | @slots l t t' hl hl' =>
    intro h
    cases h with
    | @slots m _ _ hm hm' =>
      cases hs.unique l m t hl hm
      exact Option.some.inj (hl'.symm.trans hm')
    | shared _ _ hn _ => exact absurd hn (hs.apart _ _ _ hl)
  | @shared R n n' t t' _ hm hn hn' ih =>
    intro h
    cases h with
    | slots hl _ => exact absurd hn (hs.apart _ _ _ hl)
    | @shared R' m m' _ _ hR' hm' hk hk' =>
      cases (hs.exact n t hn).symm.trans (hs.exact m t hk)
      cases hm.unique (fun a b c hab hac => ih a b hab (hR' a c hac)) hm'
      exact Option.some.inj (hn'.symm.trans hk')

theorem biUnique (hs : Sound isOpen s) (hs' : Sound isOpen' s') :
    Relator.BiUnique (Pairs s s') :=
  ⟨fun _ _ _ h h' => h.symm.unique hs' h'.symm, fun _ _ _ h h' => h.unique hs h'⟩

/-! ## Answers -/

section Answers

variable {docs : Documents} {l : Location}

/-- The types of a location are paired, since its references lead to one location. -/
theorem of_type (hdocs : s.resolver.known.Extends docs) (hdocs' : s'.resolver.known.Extends docs)
    (h : s.answers.type l t) (h' : s'.answers.type l t') : Pairs s s' t t' := by
  obtain ⟨m, hm, ht⟩ := h
  obtain ⟨m', hm', ht'⟩ := h'
  cases (hm.mono hdocs).unique (hm'.mono hdocs')
  exact .slots ht ht'

theorem eq_of_schema (hdocs : s.resolver.known.Extends docs)
    (hdocs' : s'.resolver.known.Extends docs) {p p' : Location × Json} (h : s.answers.schema l p)
    (h' : s'.answers.schema l p') : p = p' := by
  obtain ⟨m, schema⟩ := p
  obtain ⟨m', schema'⟩ := p'
  cases (h.1.mono hdocs).unique (h'.1.mono hdocs')
  cases (hdocs.schemaAt? h.2).symm.trans (hdocs'.schemaAt? h'.2)
  rfl

theorem matches_of_done (hs : Sound isOpen s) (hs' : Sound isOpen' s')
    (hdocs : s.resolver.known.Extends docs) (hdocs' : s'.resolver.known.Extends docs)
    (h : Done s l t) (h' : Done s' l t') :
    ∃ n n', s.sink.node? t = some n ∧ s'.sink.node? t' = some n' ∧
      n.Matches (Pairs s s') n' := by
  obtain ⟨schema, n, hschema, hy, hn⟩ := h
  obtain ⟨schema', n', hschema', hy', hn'⟩ := h'
  cases (hdocs.schemaAt? hschema).symm.trans (hdocs'.schemaAt? hschema')
  have hparallel := planFor_parametric (biUnique hs hs') schema l
  exact ⟨n, n', hn, hn', hparallel.yields (fun _ _ _ => of_type hdocs hdocs')
    (fun _ _ _ => eq_of_schema hdocs hdocs') (fun _ _ _ _ => of_shared) hy hy'⟩

/-- In states without open slots, types that are paired unfold alike. -/
theorem bisimulation (hs : Sound (fun _ => False) s) (hs' : Sound (fun _ => False) s')
    (hdocs : s.resolver.known.Extends docs) (hdocs' : s'.resolver.known.Extends docs) :
    Graph.Bisimulation s.sink s'.sink (Pairs s s') := by
  intro t t' h
  cases h with
  | slots hl hl' =>
    exact matches_of_done hs hs' hdocs hdocs' ((hs.done _ _ hl).resolve_left id)
      ((hs'.done _ _ hl').resolve_left id)
  | shared hR hm hn hn' => exact ⟨_, _, hs.exact _ _ hn, hs'.exact _ _ hn', hm.mono hR⟩

end Answers

end Pairs

/-! ## Plans in step -/

/-- The plans go in parallel, in whatever one-to-one way the pairs are extended. -/
def InStep (s s' : State Graph) (p p' : Plan Node) : Prop :=
  ∀ R, Relator.BiUnique R → (∀ t t', Pairs s s' t t' → R t t') →
    p.Parallel R (Node.Matches R) p'

namespace InStep

variable {p : Plan Node} {next : TypeRef → Plan Node} {l : Location}

theorem of_done {n : Node} (h : InStep s s' (.done n) p)
    (hpairs : Relator.BiUnique (Pairs s s')) : ∃ n', p = .done n' := by
  cases h _ hpairs fun _ _ h => h with
  | done => exact ⟨_, rfl⟩

theorem of_typeAt (h : InStep s s' (.typeAt l next) p) (hpairs : Relator.BiUnique (Pairs s s')) :
    ∃ next', p = .typeAt l next' ∧ ∀ s'' t t', s'.Grows s'' → Pairs s s'' t t' →
      InStep s s'' (next t) (next' t') := by
  cases h _ hpairs fun _ _ h => h with
  | @typeAt _ _ next' _ =>
    refine ⟨next', rfl, fun s'' t t' hgrows ht R hR hsub => ?_⟩
    cases h R hR fun u u' hu => hsub u u' (hu.mono hgrows) with
    | typeAt h => exact h t t' (hsub t t' ht)

theorem of_schemaBehind {next : Location × Json → Plan Node}
    (h : InStep s s' (.schemaBehind l next) p) (hpairs : Relator.BiUnique (Pairs s s')) :
    ∃ next', p = .schemaBehind l next' ∧ ∀ s'' q, s'.Grows s'' →
      InStep s s'' (next q) (next' q) := by
  cases h _ hpairs fun _ _ h => h with
  | @schemaBehind _ _ next' _ =>
    refine ⟨next', rfl, fun s'' q hgrows R hR hsub => ?_⟩
    cases h R hR fun u u' hu => hsub u u' (hu.mono hgrows) with
    | schemaBehind h => exact h q

theorem of_share {n : Node} (h : InStep s s' (.share n next) p)
    (hpairs : Relator.BiUnique (Pairs s s')) :
    ∃ n' next', p = .share n' next' ∧ n.Matches (Pairs s s') n' ∧
      ∀ s'' t t', s'.Grows s'' → Pairs s s'' t t' → InStep s s'' (next t) (next' t') := by
  cases h _ hpairs fun _ _ h => h with
  | @share _ n' _ next' hm _ =>
    refine ⟨n', next', rfl, hm, fun s'' t t' hgrows ht R hR hsub => ?_⟩
    cases h R hR fun u u' hu => hsub u u' (hu.mono hgrows) with
    | share _ h => exact h t t' (hsub t t' ht)

end InStep

theorem planFor_inStep (s s' : State Graph) (schema : Json) (l : Location) :
    InStep s s' (planFor schema l) (planFor schema l) :=
  fun _ hR _ => planFor_parametric hR schema l

end JsonTypes.Materialize
