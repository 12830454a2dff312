import JsonTypes.Proofs.Graph.Conformance

/-!
# Types that unfold alike

Two types, each of its own graph, are bisimilar if they unfold to the same tree, with the
properties of an object taken by name and the members of a union as a set. As types may lead back
to themselves, this is said by a relation: it pairs the two types, and what it pairs has nodes that
match up to the relation (`Node.Matches`).

Bisimilar types have the same values (`Graph.Bisimilar.conforms_iff`).
-/

namespace JsonTypes

namespace Node

/-- Nodes of one kind with the same parts, where a relation tells which types may stand for each
other. -/
def Matches (R : TypeRef → TypeRef → Prop) : Node → Node → Prop
  | array t, array t' => R t t'
  | map t, map t' => R t t'
  | object ps, object ps' => (∀ k, ps.get? k = none ↔ ps'.get? k = none) ∧
      ∀ k p p', ps.get? k = some p → ps'.get? k = some p' →
        p.optional = p'.optional ∧ R p.type p'.type
  | union ms, union ms' => (∀ m ∈ ms.toList, ∃ m' ∈ ms'.toList, R m m') ∧
      ∀ m' ∈ ms'.toList, ∃ m ∈ ms.toList, R m m'
  | n, n' => n = n'

/-- The node holds no types. -/
def isLeaf : Node → Bool
  | array _ | map _ | object _ | union _ => false
  | _ => true

variable {R S : TypeRef → TypeRef → Prop} {n m n' m' : Node}

theorem matches_leaf (hn : n.isLeaf = true) : n.Matches R n' ↔ n = n' := by
  unfold Matches
  split <;> simp_all [isLeaf]

theorem children_leaf (hn : n.isLeaf = true) : n.children = [] := by
  cases n <;> first | rfl | cases hn

theorem matches_array {t : TypeRef} :
    (array t).Matches R n' ↔ ∃ t', n' = array t' ∧ R t t' := by
  cases n' <;> simp [Matches]

theorem matches_map {t : TypeRef} : (map t).Matches R n' ↔ ∃ t', n' = map t' ∧ R t t' := by
  cases n' <;> simp [Matches]

theorem matches_object {ps : SortedMap String Property} :
    (object ps).Matches R n' ↔ ∃ ps', n' = object ps' ∧ (∀ k, ps.get? k = none ↔ ps'.get? k = none) ∧
      ∀ k p p', ps.get? k = some p → ps'.get? k = some p' →
        p.optional = p'.optional ∧ R p.type p'.type := by
  cases n' <;> simp [Matches]

theorem matches_union {ms : SortedSet TypeRef} :
    (union ms).Matches R n' ↔ ∃ ms', n' = union ms' ∧
      (∀ m ∈ ms.toList, ∃ m' ∈ ms'.toList, R m m') ∧
      ∀ m' ∈ ms'.toList, ∃ m ∈ ms.toList, R m m' := by
  cases n' <;> simp [Matches]

theorem Matches.mono (hRS : ∀ t t', R t t' → S t t') (h : n.Matches R n') : n.Matches S n' := by
  unfold Matches at h ⊢
  split at h
  · exact hRS _ _ h
  · exact hRS _ _ h
  · exact ⟨h.1, fun k p p' hp hp' => (h.2 k p p' hp hp').imp_right (hRS _ _)⟩
  · exact ⟨fun m hm => (h.1 m hm).imp fun m' => .imp_right (hRS _ _),
      fun m' hm' => (h.2 m' hm').imp fun m => .imp_right (hRS _ _)⟩
  · exact h

theorem Matches.symm (h : n.Matches R n') : n'.Matches (fun t t' => R t' t) n := by
  cases n with
  | array t =>
    obtain ⟨t', rfl, ht⟩ := matches_array.1 h
    exact ht
  | map t =>
    obtain ⟨t', rfl, ht⟩ := matches_map.1 h
    exact ht
  | object ps =>
    obtain ⟨ps', rfl, hkeys, hps⟩ := matches_object.1 h
    exact ⟨fun k => (hkeys k).symm, fun k p p' hp hp' => (hps k p' p hp' hp).imp_left .symm⟩
  | union ms =>
    obtain ⟨ms', rfl, hl, hr⟩ := matches_union.1 h
    exact ⟨hr, hl⟩
  | _ =>
    cases (matches_leaf rfl).1 h
    exact (matches_leaf rfl).2 rfl

/-- A node has one match at most, also under two relations that agree on what they relate. -/
theorem Matches.unique (h : n.Matches R n') (hRS : ∀ t t' t'', R t t' → S t t'' → t' = t'')
    (h' : n.Matches S m') : n' = m' := by
  cases n with
  | array t =>
    obtain ⟨t', rfl, ht⟩ := matches_array.1 h
    obtain ⟨t'', rfl, ht'⟩ := matches_array.1 h'
    rw [hRS _ _ _ ht ht']
  | map t =>
    obtain ⟨t', rfl, ht⟩ := matches_map.1 h
    obtain ⟨t'', rfl, ht'⟩ := matches_map.1 h'
    rw [hRS _ _ _ ht ht']
  | object ps =>
    obtain ⟨ps', rfl, hkeys, hps⟩ := matches_object.1 h
    obtain ⟨ps'', rfl, hkeys', hps'⟩ := matches_object.1 h'
    refine congrArg object (SortedMap.ext_get? fun k => ?_)
    rcases hp : ps.get? k with _ | p
    · rw [(hkeys k).1 hp, (hkeys' k).1 hp]
    · obtain ⟨p', hp'⟩ := Option.ne_none_iff_exists'.1 (mt (hkeys k).2 (by simp [hp]))
      obtain ⟨p'', hp''⟩ := Option.ne_none_iff_exists'.1 (mt (hkeys' k).2 (by simp [hp]))
      obtain ⟨ho, ht⟩ := hps k p p' hp hp'
      obtain ⟨ho', ht'⟩ := hps' k p p'' hp hp''
      obtain ⟨type, optional⟩ := p'
      obtain ⟨type', optional'⟩ := p''
      cases hRS _ _ _ ht ht'
      cases ho.symm.trans ho'
      rw [hp', hp'']
  | union ms =>
    obtain ⟨ms', rfl, hl, hr⟩ := matches_union.1 h
    obtain ⟨ms'', rfl, hl', hr'⟩ := matches_union.1 h'
    refine congrArg union (SortedSet.ext_mem fun x => ⟨fun hx => ?_, fun hx => ?_⟩)
    · obtain ⟨t, ht, hx'⟩ := hr x hx
      obtain ⟨y, hy, hty⟩ := hl' t ht
      exact hRS t x y hx' hty ▸ hy
    · obtain ⟨t, ht, hx'⟩ := hr' x hx
      obtain ⟨y, hy, hty⟩ := hl t ht
      exact hRS t y x hty hx' ▸ hy
  | _ => exact ((matches_leaf rfl).1 h).symm.trans ((matches_leaf rfl).1 h')

theorem Matches.unique_left (h : n.Matches R n') (hRS : ∀ t t' t'', R t t'' → S t' t'' → t = t')
    (h' : m.Matches S n') : n = m :=
  h.symm.unique (fun t t' t'' => hRS t' t'' t) h'.symm

theorem matches_self (n : Node) : n.Matches Eq n := by
  cases n with
  | array | map => exact rfl
  | object ps =>
    refine ⟨fun _ => Iff.rfl, fun k p p' hp hp' => ?_⟩
    cases hp.symm.trans hp'
    exact ⟨rfl, rfl⟩
  | union ms => exact ⟨fun m hm => ⟨m, hm, rfl⟩, fun m hm => ⟨m, hm, rfl⟩⟩
  | _ => exact (matches_leaf rfl).2 rfl

/-- Nodes match by what they point at. -/
theorem Matches.children (h : n.Matches R n') :
    n.Matches (fun t t' => R t t' ∧ t ∈ n.children ∧ t' ∈ n'.children) n' := by
  cases n with
  | array t =>
    obtain ⟨t', rfl, ht⟩ := matches_array.1 h
    exact ⟨ht, List.mem_cons_self, List.mem_cons_self⟩
  | map t =>
    obtain ⟨t', rfl, ht⟩ := matches_map.1 h
    exact ⟨ht, List.mem_cons_self, List.mem_cons_self⟩
  | object ps =>
    obtain ⟨ps', rfl, hkeys, hps⟩ := matches_object.1 h
    refine ⟨hkeys, fun k p p' hp hp' => ?_⟩
    obtain ⟨ho, ht⟩ := hps k p p' hp hp'
    exact ⟨ho, ht, List.mem_map.2 ⟨(k, p), SortedMap.mem_toList_iff.2 hp, rfl⟩,
      List.mem_map.2 ⟨(k, p'), SortedMap.mem_toList_iff.2 hp', rfl⟩⟩
  | union ms =>
    obtain ⟨ms', rfl, hl, hr⟩ := matches_union.1 h
    refine ⟨fun m hm => ?_, fun m' hm' => ?_⟩
    · obtain ⟨m', hm', ht⟩ := hl m hm
      exact ⟨m', hm', ht, hm, hm'⟩
    · obtain ⟨m, hm, ht⟩ := hr m' hm'
      exact ⟨m, hm, ht, hm, hm'⟩
  | _ =>
    cases (matches_leaf rfl).1 h
    exact (matches_leaf rfl).2 rfl

theorem Matches.eq (h : n.Matches R n')
    (hR : ∀ t ∈ n.children, ∀ t' ∈ n'.children, R t t' → t = t') : n = n' :=
  (matches_self n).unique (fun _ _ _ ht ⟨hr, hm, hm'⟩ => ht ▸ hR _ hm _ hm' hr) h.children

end Node

namespace Graph

variable {g g' : Graph} {t t' : TypeRef} {n n' : Node}

/-- What the relation pairs has nodes that match. -/
def Bisimulation (g g' : Graph) (R : TypeRef → TypeRef → Prop) : Prop :=
  ∀ t t', R t t' → ∃ n n', g.node? t = some n ∧ g'.node? t' = some n' ∧ n.Matches R n'

/-- The types unfold to the same tree. -/
def Bisimilar (g g' : Graph) (t t' : TypeRef) : Prop := ∃ R, Bisimulation g g' R ∧ R t t'

open Node

namespace Bisimilar

theorem exists_nodes (hb : g.Bisimilar g' t t') :
    ∃ n n', g.node? t = some n ∧ g'.node? t' = some n' ∧ n.Matches (g.Bisimilar g') n' := by
  obtain ⟨R, hR, ht⟩ := hb
  obtain ⟨n, n', hn, hn', hm⟩ := hR t t' ht
  exact ⟨n, n', hn, hn', hm.mono fun _ _ h => ⟨R, hR, h⟩⟩

/-- Types whose nodes match up to bisimilar types are bisimilar. -/
theorem of_matches (hn : g.node? t = some n) (hn' : g'.node? t' = some n')
    (hm : n.Matches (g.Bisimilar g') n') : g.Bisimilar g' t t' := by
  refine ⟨fun a a' => g.Bisimilar g' a a' ∨ a = t ∧ a' = t', fun a a' ha => ?_, .inr ⟨rfl, rfl⟩⟩
  rcases ha with ha | ⟨rfl, rfl⟩
  · obtain ⟨m, m', hm, hm', hmatch⟩ := ha.exists_nodes
    exact ⟨m, m', hm, hm', hmatch.mono fun _ _ => .inl⟩
  · exact ⟨n, n', hn, hn', hm.mono fun _ _ => .inl⟩

theorem symm (hb : g.Bisimilar g' t t') : g'.Bisimilar g t' t := by
  obtain ⟨R, hR, ht⟩ := hb
  refine ⟨fun a' a => R a a', fun a' a ha => ?_, ht⟩
  obtain ⟨n, n', hn, hn', hm⟩ := hR a a' ha
  exact ⟨n', n, hn', hn, hm.symm⟩

theorem exists_node (hb : g.Bisimilar g' t t') (hn : g.node? t = some n) :
    ∃ n', g'.node? t' = some n' ∧ n.Matches (g.Bisimilar g') n' := by
  obtain ⟨m, n', hm, hn', hmatch⟩ := hb.exists_nodes
  cases hn.symm.trans hm
  exact ⟨n', hn', hmatch⟩

theorem node?_leaf (hb : g.Bisimilar g' t t') (hn : g.node? t = some n) (hleaf : n.isLeaf = true) :
    g'.node? t' = some n := by
  obtain ⟨n', hn', hm⟩ := hb.exists_node hn
  cases (matches_leaf hleaf).1 hm
  exact hn'

theorem conforms {R : Reading} {v : Json} (hv : Conforms R g v t)
    (hb : g.Bisimilar g' t t') : Conforms R g' v t' := by
  induction hv generalizing t' with
  | any ht => exact .any (hb.node?_leaf ht rfl)
  | null ht => exact .null (hb.node?_leaf ht rfl)
  | bool ht => exact .bool (hb.node?_leaf ht rfl)
  | integer ht => exact .integer (hb.node?_leaf ht rfl)
  | double ht => exact .double (hb.node?_leaf ht rfl)
  | string ht => exact .string (hb.node?_leaf ht rfl)
  | format ht hf => exact .format (hb.node?_leaf ht rfl) hf
  | enum ht hs => exact .enum (hb.node?_leaf ht rfl) hs
  | array ht _ ih =>
    obtain ⟨_, hn', hm⟩ := hb.exists_node ht
    obtain ⟨items', rfl, hitems⟩ := matches_array.1 hm
    exact .array hn' fun x hx => ih x hx hitems
  | @object _ _ ps ht hclosed _ hrequired ih =>
    obtain ⟨_, hn', hm⟩ := hb.exists_node ht
    obtain ⟨ps', rfl, hkeys, hps⟩ := matches_object.1 hm
    have hpartner : ∀ k p', ps'.get? k = some p' →
        ∃ p, ps.get? k = some p ∧ p.optional = p'.optional ∧ g.Bisimilar g' p.type p'.type := by
      intro k p' hp'
      obtain ⟨p, hp⟩ := Option.ne_none_iff_exists'.1 (mt (hkeys k).1 (by simp [hp']))
      exact ⟨p, hp, hps k p p' hp hp'⟩
    refine .object hn' (fun hc k hk => ?_) (fun k x p' hx hp' => ?_) fun k p' hp' ho => ?_
    · obtain ⟨p, hp⟩ := hclosed hc k hk
      exact Option.ne_none_iff_exists'.1 (mt (hkeys k).2 (by simp [hp]))
    · obtain ⟨p, hp, -, htype⟩ := hpartner k p' hp'
      exact ih k x p hx hp htype
    · obtain ⟨p, hp, hopt, -⟩ := hpartner k p' hp'
      exact hrequired k p hp (hopt.trans ho)
  | map ht _ ih =>
    obtain ⟨_, hn', hm⟩ := hb.exists_node ht
    obtain ⟨values', rfl, hvalues⟩ := matches_map.1 hm
    exact .map hn' fun k x hx => ih k x hx hvalues
  | union ht hmem _ ih =>
    obtain ⟨_, hn', hm⟩ := hb.exists_node ht
    obtain ⟨ms', rfl, hl, -⟩ := matches_union.1 hm
    obtain ⟨m', hm', hb'⟩ := hl _ hmem
    exact .union hn' hm' (ih hb')

theorem conforms_iff {R : Reading} {v : Json} (hb : g.Bisimilar g' t t') :
    Conforms R g v t ↔ Conforms R g' v t' :=
  ⟨fun hv => conforms hv hb, fun hv => conforms hv hb.symm⟩

end Bisimilar

end Graph

end JsonTypes
