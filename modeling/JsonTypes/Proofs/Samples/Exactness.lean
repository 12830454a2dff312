import JsonTypes.Proofs.Samples.Order

/-!
# The inferred type says no more than the samples do

A place in values is told by the steps down to it, into the elements of arrays and to the members
under a key. All values at a place are gathered from all samples (`Json.valuesAt`), and the type at
the place is where the same steps lead in the graph (`Graph.TypeAt`).

The nodes of a type inferred from values are one for each family that there is among the values
(`Inferred.exists_unfolds`), so they tell exactly which families there are (`Inferred.exact`). What
a step leads to in the graph is inferred from what it leads to in the values (`Inferred.descend`),
so the same is true at every place (`infer_exact`).
-/

namespace JsonTypes

/-! ## Places in values -/

namespace Json

/-- A step down into values. -/
inductive Descent where
  | element
  | member (key : String)
deriving DecidableEq, Repr

/-- The values that a step leads to. -/
def descend (vs : List Json) : Descent → List Json
  | .element => (vs.filterMap array?).flatten
  | .member key => under key (vs.filterMap object?).flatten

/-- There is an array to go into, or an object with the key. -/
def Admits (vs : List Json) : Descent → Prop
  | .element => ∃ items, .array items ∈ vs
  | .member key => ∃ members, .object members ∈ vs ∧ key ∈ Entries.keys members

/-- All values at a place. -/
def valuesAt (vs : List Json) : List Descent → List Json
  | [] => vs
  | d :: rest => valuesAt (descend vs d) rest

def HasPlace (vs : List Json) : List Descent → Prop
  | [] => True
  | d :: rest => Admits vs d ∧ HasPlace (descend vs d) rest

section KeysDistinct

variable {vs : List Json}

theorem mem_filterMap_array? {items : List Json} :
    items ∈ vs.filterMap array? ↔ .array items ∈ vs := by
  rw [List.mem_filterMap]
  refine ⟨fun ⟨v, hv, hi⟩ => ?_, fun h => ⟨_, h, rfl⟩⟩
  cases v <;> cases hi
  exact hv

theorem mem_filterMap_object? {members : List (String × Json)} :
    members ∈ vs.filterMap object? ↔ .object members ∈ vs := by
  rw [List.mem_filterMap]
  refine ⟨fun ⟨v, hv, hm⟩ => ?_, fun h => ⟨_, h, rfl⟩⟩
  cases v <;> cases hm
  exact hv

theorem mem_filterMap_string? {text : String} : text ∈ vs.filterMap string? ↔ .string text ∈ vs := by
  rw [List.mem_filterMap]
  refine ⟨fun ⟨v, hv, ht⟩ => ?_, fun h => ⟨_, h, rfl⟩⟩
  cases v <;> cases ht
  exact hv

/-- Distinct keys stay distinct further down. -/
theorem keysDistinct_descend (h : ∀ v ∈ vs, v.KeysDistinct) (d : Descent) :
    ∀ v ∈ descend vs d, v.KeysDistinct := by
  intro v hv
  cases d with
  | element =>
    obtain ⟨items, hitems, hv⟩ := List.mem_flatten.1 hv
    exact keysDistinctAll_iff.1 (h _ (mem_filterMap_array?.1 hitems)) v hv
  | member key =>
    obtain ⟨e, he, rfl⟩ := List.mem_map.1 hv
    obtain ⟨members, hmembers, he⟩ := List.mem_flatten.1 (List.mem_filter.1 he).1
    exact keysDistinctMembers_iff.1 (h _ (mem_filterMap_object?.1 hmembers)).2 e he

theorem length_under {members : List (String × Json)} (h : (Entries.keys members).Nodup)
    (key : String) : (under key members).length = if key ∈ Entries.keys members then 1 else 0 := by
  rw [← h.count, under, List.length_map, ← List.countP_eq_length_filter, List.count, Entries.keys,
    List.countP_map]
  exact List.countP_congr fun e _ => by simp

/-- There are as many members of one key as there are objects that have it. -/
theorem length_under_flatten {objects : List (List (String × Json))}
    (h : ∀ members ∈ objects, (Entries.keys members).Nodup) (key : String) :
    (under key objects.flatten).length = objects.countP (key ∈ Entries.keys ·) := by
  induction objects with
  | nil => rfl
  | cons members rest ih =>
    obtain ⟨hfirst, hrest⟩ := List.forall_mem_cons.1 h
    rw [List.flatten_cons, under_append, List.length_append, ih hrest, length_under hfirst,
      List.countP_cons, Nat.add_comm]
    simp

theorem length_under_lt_iff {objects : List (List (String × Json))}
    (h : ∀ members ∈ objects, (Entries.keys members).Nodup) (key : String) :
    (under key objects.flatten).length < objects.length ↔
      ∃ members ∈ objects, key ∉ Entries.keys members := by
  rw [length_under_flatten h, lt_iff_le_and_ne, and_iff_right List.countP_le_length, Ne,
    List.countP_eq_length]
  simp

end KeysDistinct

end Json

/-! ## Families -/

/-- What kinds of values samples tell apart. All numbers are of one family. -/
inductive Family where
  | null
  | boolean
  | number
  | text
  | array
  | object
deriving DecidableEq, Repr

def Json.family : Json → Family
  | null => .null
  | bool _ => .boolean
  | number _ => .number
  | string _ => .text
  | array _ => .array
  | object _ => .object

/-- The family that a node is for, if it is for one. -/
def Node.family? : Node → Option Family
  | null => some .null
  | bool => some .boolean
  | integer => some .number
  | double => some .number
  | string _ => some .text
  | enum _ => some .text
  | array _ => some .array
  | object _ => some .object
  | _ => none

def families (vs : List Json) : Finset Family := (vs.map Json.family).toFinset

theorem mem_families {vs : List Json} {f : Family} : f ∈ families vs ↔ ∃ v ∈ vs, v.family = f := by
  simp [families]

namespace Graph

/-- The node is the type's own, if that is no union, or the node of a member of its union. -/
inductive Offers (g : Graph) (t : TypeRef) (n : Node) : Prop
  | own : g.node? t = some n → (∀ ms, n ≠ .union ms) → Offers g t n
  | member {ms m} : g.node? t = some (.union ms) → m ∈ ms.toList → g.node? m = some n → Offers g t n

/-- Where a step leads in a graph. -/
inductive Descends (g : Graph) (t : TypeRef) : Json.Descent → TypeRef → Prop
  | element {items} : g.Offers t (.array items) → Descends g t .element items
  | member {ps key p} : g.Offers t (.object ps) → ps.get? key = some p →
      Descends g t (.member key) p.type

/-- The type at a place. -/
def TypeAt (g : Graph) : TypeRef → List Json.Descent → TypeRef → Prop
  | t, [], u => u = t
  | t, d :: rest, u => ∃ m, g.Descends t d m ∧ TypeAt g m rest u

end Graph

/-- What nodes are offered for values: one for each family that there is. -/
structure Contains (offered : Node → Prop) (vs : List Json) : Prop where
  null : offered .null ↔ .null ∈ vs
  bool : offered .bool ↔ ∃ b, .bool b ∈ vs
  double : offered .double ↔ ∃ d, .number (.double d) ∈ vs
  integer : offered .integer ↔
    (∃ n, .number n ∈ vs) ∧ ∀ n, .number n ∈ vs → ∃ i, n = .integer i
  text : (∃ n, offered n ∧ n.family? = some .text) ↔ ∃ s, .string s ∈ vs
  array : (∃ items, offered (.array items)) ↔ ∃ items, .array items ∈ vs
  object : (∃ ps, offered (.object ps)) ↔ ∃ members, .object members ∈ vs

/-- The type is for any value if there are none, has a node for one family, or is a flat union of
types for different families. -/
structure Formed (g : Graph) (vs : List Json) (t : TypeRef) : Prop where
  any : g.node? t = some .any ↔ vs = []
  bare : (∃ n f, g.node? t = some n ∧ n.family? = some f) ↔ (families vs).card = 1
  union : (∃ ms, g.node? t = some (.union ms)) ↔ 2 ≤ (families vs).card
  members : ∀ ms, g.node? t = some (.union ms) → ∀ m ∈ ms.toList,
    ∃ n f, g.node? m = some n ∧ n.family? = some f
  distinct : ∀ ms, g.node? t = some (.union ms) → ∀ m ∈ ms.toList, ∀ m' ∈ ms.toList, ∀ n n',
    g.node? m = some n → g.node? m' = some n' → n.family? = n'.family? → m = m'
  nothing_else : ∀ n, g.Offers t n → n = .any ∨ ∃ f, n.family? = some f

/-- The properties are the keys of the objects, optional if an object lacks them. -/
structure Lists (vs : List Json) (ps : SortedMap String Property) : Prop where
  keys : ∀ key, (∃ p, ps.get? key = some p) ↔
    ∃ members, .object members ∈ vs ∧ key ∈ Entries.keys members
  optional : ∀ key p, ps.get? key = some p →
    (p.optional = true ↔ ∃ members, .object members ∈ vs ∧ key ∉ Entries.keys members)

/-- The type says exactly what kinds of values there are. -/
structure Exact (g : Graph) (vs : List Json) (t : TypeRef) : Prop where
  contains : Contains (g.Offers t) vs
  formed : Formed g vs t
  lists : ∀ ps, g.Offers t (.object ps) → Lists vs ps

theorem Contains.congr {offered offered' : Node → Prop} {vs : List Json}
    (h : ∀ n f, n.family? = some f → (offered n ↔ offered' n)) (hc : Contains offered vs) :
    Contains offered' vs where
  null := (h _ _ rfl).symm.trans hc.null
  bool := (h _ _ rfl).symm.trans hc.bool
  double := (h _ _ rfl).symm.trans hc.double
  integer := (h _ _ rfl).symm.trans hc.integer
  text := Iff.trans (exists_congr fun n => and_congr_left fun hn => (h n _ hn).symm) hc.text
  array := Iff.trans (exists_congr fun _ => (h _ _ rfl).symm) hc.array
  object := Iff.trans (exists_congr fun _ => (h _ _ rfl).symm) hc.object

/-- Nodes are offered for the families that there are. -/
theorem Contains.exists_family {offered : Node → Prop} {vs : List Json} (h : Contains offered vs)
    (f : Family) : (∃ n, offered n ∧ n.family? = some f) ↔ f ∈ families vs := by
  rw [mem_families]
  cases f with
  | null =>
    refine ⟨fun ⟨n, hn, hf⟩ => ?_, fun ⟨v, hv, hf⟩ => ?_⟩
    · cases n <;> cases hf
      exact ⟨_, h.null.1 hn, rfl⟩
    · cases v <;> cases hf
      exact ⟨_, h.null.2 hv, rfl⟩
  | boolean =>
    refine ⟨fun ⟨n, hn, hf⟩ => ?_, fun ⟨v, hv, hf⟩ => ?_⟩
    · cases n <;> cases hf
      obtain ⟨b, hb⟩ := h.bool.1 hn
      exact ⟨_, hb, rfl⟩
    · cases v <;> cases hf
      exact ⟨_, h.bool.2 ⟨_, hv⟩, rfl⟩
  | number =>
    refine ⟨fun ⟨n, hn, hf⟩ => ?_, fun ⟨v, hv, hf⟩ => ?_⟩
    · cases n <;> cases hf
      · obtain ⟨⟨i, hi⟩, -⟩ := h.integer.1 hn
        exact ⟨_, hi, rfl⟩
      · obtain ⟨d, hd⟩ := h.double.1 hn
        exact ⟨_, hd, rfl⟩
    · cases v <;> cases hf
      by_cases hd : ∃ d, Json.number (.double d) ∈ vs
      · exact ⟨_, h.double.2 hd, rfl⟩
      · refine ⟨_, h.integer.2 ⟨⟨_, hv⟩, fun n hn => ?_⟩, rfl⟩
        cases n with
        | integer i => exact ⟨i, rfl⟩
        | double d => exact absurd ⟨d, hn⟩ hd
  | text =>
    rw [h.text]
    refine ⟨fun ⟨s, hs⟩ => ⟨_, hs, rfl⟩, fun ⟨v, hv, hf⟩ => ?_⟩
    cases v <;> cases hf
    exact ⟨_, hv⟩
  | array =>
    refine ⟨fun ⟨n, hn, hf⟩ => ?_, fun ⟨v, hv, hf⟩ => ?_⟩
    · cases n <;> cases hf
      obtain ⟨items, hi⟩ := h.array.1 ⟨_, hn⟩
      exact ⟨_, hi, rfl⟩
    · cases v <;> cases hf
      obtain ⟨items, hi⟩ := h.array.2 ⟨_, hv⟩
      exact ⟨_, hi, rfl⟩
  | object =>
    refine ⟨fun ⟨n, hn, hf⟩ => ?_, fun ⟨v, hv, hf⟩ => ?_⟩
    · cases n <;> cases hf
      obtain ⟨members, hm⟩ := h.object.1 ⟨_, hn⟩
      exact ⟨_, hm, rfl⟩
    · cases v <;> cases hf
      obtain ⟨ps, hp⟩ := h.object.2 ⟨_, hv⟩
      exact ⟨_, hp, rfl⟩

/-! ## Nodes of a shape -/

theorem StringShape.family?_node (c : InferenceConfig) (strings : StringShape) :
    (strings.node c).family? = some .text := by
  unfold StringShape.node
  split
  · rfl
  · split_ifs <;> rfl

namespace ScalarShape

variable {c : InferenceConfig} {s : ScalarShape} {vs : List Json}

theorem mem_nodes_iff {n : Node} : n ∈ s.nodes c ↔ (n = .null ∧ s.null = true) ∨
    (n = .bool ∧ s.boolean = true) ∨ (n = .double ∧ s.double = true) ∨
    (n = .integer ∧ s.double = false ∧ s.integer = true) ∨
    ∃ strings, s.strings = some strings ∧ n = strings.node c := by
  obtain ⟨null, boolean, integer, double, strings⟩ := s
  cases null <;> cases boolean <;> cases integer <;> cases double <;> cases strings <;>
    simp [nodes]

theorem nodes_sublist : List.Sublist ((s.nodes c).map Node.family?)
    ([some Family.null] ++ [some Family.boolean] ++ [some Family.number] ++ [some Family.text]) := by
  obtain ⟨null, boolean, integer, double, strings⟩ := s
  simp only [nodes, List.map_append]
  refine .append (.append (.append ?_ ?_) ?_) ?_
  · cases null <;> simp [Node.family?]
  · cases boolean <;> simp [Node.family?]
  · cases double <;> cases integer <;> simp [Node.family?]
  · cases strings <;> simp [StringShape.family?_node]

end ScalarShape

section Unfolds

open Shape

variable {c : InferenceConfig} {g : Graph} {s : Shape} {vs : List Json} {t : TypeRef}

/-- The nodes of a type inferred from values. The types that they point at were inferred from what
the values have further down. -/
structure Unfolds (c : InferenceConfig) (g : Graph) (vs : List Json) (nodes : List Node) : Prop where
  contains : Contains (· ∈ nodes) vs
  nodup : (nodes.map Node.family?).Nodup
  family : ∀ n ∈ nodes, ∃ f, n.family? = some f
  text : ∀ n ∈ nodes, n.family? = some .text → ∃ strings : StringShape,
    strings.Holds c (vs.filterMap Json.string?) ∧ n = strings.node c
  array : ∀ items, .array items ∈ nodes → Inferred c g (Json.descend vs .element) items
  keys : ∀ ps, .object ps ∈ nodes → ∀ key,
    (∃ p, ps.get? key = some p) ↔ Json.Admits vs (.member key)
  property : ∀ ps, .object ps ∈ nodes → ∀ key p, ps.get? key = some p →
    Inferred c g (Json.descend vs (.member key)) p.type ∧ (p.optional = true ↔
      (Json.descend vs (.member key)).length < (vs.filterMap Json.object?).length)

theorem ScalarShape.mem_nodes_iff_of_ne {scalars : ScalarShape} {n : Node}
    (hn : n.family? ≠ some .text) : n ∈ scalars.nodes c ↔ (n = .null ∧ scalars.null = true) ∨
      (n = .bool ∧ scalars.boolean = true) ∨ (n = .double ∧ scalars.double = true) ∨
      n = .integer ∧ scalars.double = false ∧ scalars.integer = true := by
  have hno : ¬∃ strings, scalars.strings = some strings ∧ n = strings.node c := by
    rintro ⟨strings, -, rfl⟩
    exact hn (StringShape.family?_node c strings)
  rw [mem_nodes_iff]
  simp only [hno, or_false]

theorem ScalarShape.Holds.contains_nodes {scalars : ScalarShape} (h : scalars.Holds c vs) :
    (.null ∈ scalars.nodes c ↔ .null ∈ vs) ∧ (.bool ∈ scalars.nodes c ↔ ∃ b, .bool b ∈ vs) ∧
    (.double ∈ scalars.nodes c ↔ ∃ d, .number (.double d) ∈ vs) ∧
    (.integer ∈ scalars.nodes c ↔
      (∃ n, .number n ∈ vs) ∧ ∀ n, .number n ∈ vs → ∃ i, n = .integer i) ∧
    ((∃ n ∈ scalars.nodes c, n.family? = some .text) ↔ ∃ s, .string s ∈ vs) := by
  refine ⟨?_, ?_, ?_, ?_, ?_⟩
  · rw [ScalarShape.mem_nodes_iff_of_ne (by decide)]
    simpa using h.null
  · rw [ScalarShape.mem_nodes_iff_of_ne (by decide)]
    simpa using h.boolean
  · rw [ScalarShape.mem_nodes_iff_of_ne (by decide)]
    simpa using h.double
  · have hdouble : scalars.double = false ↔ ∀ n, .number n ∈ vs → ∃ i, n = .integer i := by
      rw [← Bool.not_eq_true, h.double, not_exists]
      refine ⟨fun hd n hn => ?_, fun hall d hd => ?_⟩
      · cases n with
        | integer i => exact ⟨i, rfl⟩
        | double d => exact absurd hn (hd d)
      · obtain ⟨i, hi⟩ := hall _ hd
        cases hi
    have hmem : .integer ∈ scalars.nodes c ↔ scalars.double = false ∧ scalars.integer = true := by
      rw [ScalarShape.mem_nodes_iff_of_ne (by decide)]
      simp
    rw [hmem, hdouble, h.integer, and_comm]
    refine and_congr_left fun hall => ⟨fun ⟨i, hi⟩ => ⟨_, hi⟩, fun ⟨n, hn⟩ => ?_⟩
    obtain ⟨i, rfl⟩ := hall n hn
    exact ⟨i, hn⟩
  · have hnone : (∃ strings, scalars.strings = some strings) ↔ ∃ s, .string s ∈ vs := by
      rw [← Option.ne_none_iff_exists', Ne, h.strings_eq_none, List.eq_nil_iff_forall_not_mem,
        not_forall_not]
      exact exists_congr fun _ => Json.mem_filterMap_string?
    rw [← hnone]
    refine ⟨fun ⟨n, hn, hf⟩ => ?_, fun ⟨strings, hs⟩ => ⟨_, ScalarShape.mem_nodes_iff.2
      (.inr (.inr (.inr (.inr ⟨strings, hs, rfl⟩)))), StringShape.family?_node c strings⟩⟩
    rcases ScalarShape.mem_nodes_iff.1 hn with ⟨rfl, -⟩ | ⟨rfl, -⟩ | ⟨rfl, -⟩ | ⟨rfl, -⟩ |
      ⟨strings, hs, -⟩
    · cases hf
    · cases hf
    · cases hf
    · cases hf
    · exact ⟨strings, hs⟩

theorem Shape.Holds.scalars (h : Holds c s vs) : s.scalars.Holds c vs := by
  obtain ⟨-, -, -, hs, -, -, -, -, -, -⟩ := h
  exact hs

theorem Shape.Holds.items_ne_none (h : Holds c s vs) :
    s.items ≠ none ↔ ∃ items, .array items ∈ vs := by
  obtain ⟨rfl, -, -, -, hnone, -, -, -, -, -⟩ := h
  rw [Ne, hnone, List.eq_nil_iff_forall_not_mem, not_forall_not]
  exact exists_congr fun _ => Json.mem_filterMap_array?

theorem Shape.Holds.records_ne_zero (h : Holds c s vs) :
    s.records ≠ 0 ↔ ∃ members, .object members ∈ vs := by
  obtain ⟨-, rfl, -, -, -, -, hrec, -, -, -⟩ := h
  rw [hrec, Ne, List.length_eq_zero_iff, List.eq_nil_iff_forall_not_mem, not_forall_not]
  exact exists_congr fun _ => Json.mem_filterMap_object?

theorem Shape.ArrayNodes.mem_iff {items : Option Shape} {nodes : List Node}
    (h : ArrayNodes c g items nodes) (n : Node) :
    n ∈ nodes ↔ ∃ i u, items = some i ∧ nodes = [.array u] ∧ n = .array u ∧ Emitted c g i u := by
  cases h with
  | empty => simp
  | array hu => simp [hu]

/-- The nodes of a shape: those of the scalars, of the arrays and of the objects. -/
def Shape.nodesWith (c : InferenceConfig) (s : Shape) (arrays : List Node)
    (ps : SortedMap String Property) : List Node :=
  s.scalars.nodes c ++ arrays ++ if s.records = 0 then [] else [.object ps]

section Parts

variable {arrays : List Node} {ps : SortedMap String Property}

theorem mem_nodesWith_leaf (ha : ArrayNodes c g s.items arrays) {n : Node} (hn : n.isLeaf = true) :
    n ∈ s.nodesWith c arrays ps ↔ n ∈ s.scalars.nodes c := by
  rw [Shape.nodesWith, List.mem_append, List.mem_append, ha.mem_iff, or_assoc, or_iff_left]
  rintro (⟨i, u, -, -, rfl, -⟩ | hobject)
  · cases hn
  · split_ifs at hobject
    · cases hobject
    · cases List.mem_singleton.1 hobject
      cases hn

theorem array_mem_nodesWith {items : TypeRef} :
    .array items ∈ s.nodesWith c arrays ps ↔ .array items ∈ arrays := by
  rw [Shape.nodesWith, List.mem_append, List.mem_append, or_assoc, or_iff_right, or_iff_left]
  · split_ifs <;> simp
  · exact fun hscalar => by cases isLeaf_of_mem_nodes hscalar

theorem object_mem_nodesWith (ha : ArrayNodes c g s.items arrays) {ps' : SortedMap String Property} :
    .object ps' ∈ s.nodesWith c arrays ps ↔ s.records ≠ 0 ∧ ps' = ps := by
  rw [Shape.nodesWith, List.mem_append, or_iff_right]
  · split_ifs with h <;> simp [h]
  · rw [List.mem_append, ha.mem_iff]
    rintro (hscalar | ⟨i, u, -, -, he, -⟩)
    · cases isLeaf_of_mem_nodes hscalar
    · cases he

theorem Shape.Holds.contains (h : Holds c s vs) (ha : ArrayNodes c g s.items arrays) :
    Contains (· ∈ s.nodesWith c arrays ps) vs := by
  obtain ⟨hnull, hbool, hdouble, hint, htext⟩ := h.scalars.contains_nodes
  refine ⟨(mem_nodesWith_leaf ha rfl).trans hnull, (mem_nodesWith_leaf ha rfl).trans hbool,
    (mem_nodesWith_leaf ha rfl).trans hdouble, (mem_nodesWith_leaf ha rfl).trans hint,
    Iff.trans (exists_congr fun n => and_congr_left fun hf => mem_nodesWith_leaf ha ?_) htext,
    ?_, ?_⟩
  · cases n <;> cases hf <;> rfl
  · rw [← h.items_ne_none]
    simp only [array_mem_nodesWith]
    generalize s.items = items at ha
    cases ha <;> simp
  · rw [← h.records_ne_zero]
    simp only [object_mem_nodesWith ha]
    exact ⟨fun ⟨_, hrec, _⟩ => hrec, fun hrec => ⟨ps, hrec, rfl⟩⟩

theorem nodup_nodesWith (ha : ArrayNodes c g s.items arrays) :
    ((s.nodesWith c arrays ps).map Node.family?).Nodup := by
  have hsub : List.Sublist ((s.nodesWith c arrays ps).map Node.family?)
      ([some Family.null] ++ [some Family.boolean] ++ [some Family.number] ++ [some Family.text] ++
        [some Family.array] ++ [some Family.object]) := by
    rw [Shape.nodesWith, List.map_append, List.map_append]
    refine .append (.append ScalarShape.nodes_sublist ?_) ?_
    · generalize s.items = items at ha
      cases ha <;> simp [Node.family?]
    · split_ifs <;> simp [Node.family?]
  exact List.Nodup.sublist hsub (by decide)

end Parts

theorem Inferred.exists_unfolds (h : Inferred c g vs t) :
    ∃ nodes n, Unfolds c g vs nodes ∧ Combined g nodes n ∧ g.node? t = some n := by
  obtain ⟨s, hs, ht⟩ := h
  obtain ⟨arrays, types, n, ha, hty, hn, ht⟩ := ht.exists_node
  refine ⟨s.nodesWith c arrays (.ofList types), n, ?_, hn, ht⟩
  have hscalars := hs.scalars
  have hcontains : Contains (· ∈ s.nodesWith c arrays (.ofList types)) vs := hs.contains ha
  obtain ⟨rfl, rfl, -, -, -, hitems, hrec, hnodup, hkeys, hprops⟩ := hs
  have hget : ∀ key, (SortedMap.ofList types).get? key = Entries.get? types key :=
    SortedMap.get?_ofList (show (Entries.keys types).Nodup from hty.keys ▸ hnodup)
  refine ⟨hcontains, nodup_nodesWith ha, fun m hm => ?_, fun m hm hf => ?_, fun items hm => ?_,
    fun ps hm key => ?_, fun ps hm key p hp => ?_⟩
  · have hsome : (m.family?).isSome = true := by
      rw [Shape.nodesWith, List.mem_append, List.mem_append, ha.mem_iff] at hm
      rcases hm with (hm | ⟨i, u, -, -, rfl, -⟩) | hm
      · rcases ScalarShape.mem_nodes_iff.1 hm with ⟨rfl, -⟩ | ⟨rfl, -⟩ | ⟨rfl, -⟩ | ⟨rfl, -⟩ |
          ⟨strings, -, rfl⟩
        · rfl
        · rfl
        · rfl
        · rfl
        · rw [StringShape.family?_node]
          rfl
      · rfl
      · split_ifs at hm
        · cases hm
        · cases List.mem_singleton.1 hm
          rfl
    exact Option.isSome_iff_exists.1 hsome
  · rw [mem_nodesWith_leaf ha (by cases m <;> cases hf <;> rfl), ScalarShape.mem_nodes_iff] at hm
    rcases hm with ⟨rfl, -⟩ | ⟨rfl, -⟩ | ⟨rfl, -⟩ | ⟨rfl, -⟩ | ⟨strings, hstrings, rfl⟩
    · cases hf
    · cases hf
    · cases hf
    · cases hf
    · have hholds := hscalars.strings
      rw [hstrings] at hholds
      exact ⟨strings, hholds, rfl⟩
  · obtain ⟨i, u, hi, -, he, hu⟩ := (ha.mem_iff _).1 (array_mem_nodesWith.1 hm)
    cases he
    exact ⟨i, hitems i hi, hu⟩
  · obtain ⟨-, rfl⟩ := (object_mem_nodesWith ha).1 hm
    rw [hget, ← Entries.mem_keys_iff, hty.keys, hkeys, Entries.keys, List.map_flatten,
      List.mem_flatten]
    constructor
    · rintro ⟨ks, hks, hk⟩
      obtain ⟨members, hmembers, rfl⟩ := List.mem_map.1 hks
      exact ⟨members, Json.mem_filterMap_object?.1 hmembers, hk⟩
    · rintro ⟨members, hmembers, hk⟩
      exact ⟨_, List.mem_map.2 ⟨members, Json.mem_filterMap_object?.2 hmembers, rfl⟩, hk⟩
  · obtain ⟨-, rfl⟩ := (object_mem_nodesWith ha).1 hm
    obtain ⟨s', hs', hopt, hemitted⟩ := hty.typed key p (hget key ▸ hp)
    have hholds := hprops key s' hs'
    refine ⟨⟨s', hholds, hemitted⟩, ?_⟩
    rw [hopt, decide_eq_true_iff, hholds.occurrences, hrec]
    rfl

/-! ## The nodes that a type offers -/

variable {nodes : List Node} {n : Node} {types : List TypeRef}

theorem exists_type_of_mem (h : List.Forall₂ (fun n t => g.node? t = some n) nodes types)
    (hn : n ∈ nodes) : ∃ t ∈ types, g.node? t = some n := by
  induction h with
  | nil => cases hn
  | cons ht _ ih =>
    rcases List.mem_cons.1 hn with rfl | hn
    · exact ⟨_, List.mem_cons_self, ht⟩
    · obtain ⟨t, ht, hnode⟩ := ih hn
      exact ⟨t, List.mem_cons_of_mem _ ht, hnode⟩

theorem exists_node_of_mem (h : List.Forall₂ (fun n t => g.node? t = some n) nodes types)
    (ht : t ∈ types) : ∃ n ∈ nodes, g.node? t = some n := by
  induction h with
  | nil => cases ht
  | cons hn _ ih =>
    rcases List.mem_cons.1 ht with rfl | ht
    · exact ⟨_, List.mem_cons_self, hn⟩
    · obtain ⟨n, hn, hnode⟩ := ih ht
      exact ⟨n, List.mem_cons_of_mem _ hn, hnode⟩

/-- Types of different nodes are told apart by what tells the nodes apart. -/
theorem type_eq_of_family (h : List.Forall₂ (fun n t => g.node? t = some n) nodes types)
    (hnodup : (nodes.map Node.family?).Nodup) {m m' : TypeRef} {n n' : Node} (hm : m ∈ types)
    (hm' : m' ∈ types) (hn : g.node? m = some n) (hn' : g.node? m' = some n')
    (hf : n.family? = n'.family?) : m = m' := by
  induction h with
  | nil => cases hm
  | @cons n₁ t₁ nodes types ht hts ih =>
    obtain ⟨hfirst, hnodup⟩ := List.nodup_cons.1 hnodup
    -- No other node is of the family of the first one.
    have hother : ∀ {m n}, m ∈ types → g.node? m = some n → n.family? ≠ n₁.family? := by
      intro m n hm hn he
      obtain ⟨n', hn', hnode⟩ := exists_node_of_mem hts hm
      cases hn.symm.trans hnode
      exact hfirst (he ▸ List.mem_map_of_mem hn')
    rcases List.mem_cons.1 hm with rfl | hrest
    · rcases List.mem_cons.1 hm' with rfl | hrest'
      · rfl
      · cases hn.symm.trans ht
        exact absurd hf.symm (hother hrest' hn')
    · rcases List.mem_cons.1 hm' with rfl | hrest'
      · cases hn'.symm.trans ht
        exact absurd hf (hother hrest hn)
      · exact ih hnodup hrest hrest'

theorem not_union_of_family {f : Family} (hn : n.family? = some f) (ms : SortedSet TypeRef) :
    n ≠ .union ms := by
  rintro rfl
  cases hn

/-- A type offers the nodes that were combined for it, or any value if there was none. -/
theorem Shape.Combined.offers_iff (h : Combined g nodes n) (ht : g.node? t = some n)
    (hf : ∀ n ∈ nodes, ∃ f, n.family? = some f) (m : Node) :
    g.Offers t m ↔ m ∈ nodes ∨ nodes = [] ∧ m = .any := by
  cases h with
  | any =>
    refine ⟨fun ho => ?_, ?_⟩
    · cases ho with
      | own hm _ => exact .inr ⟨rfl, Option.some.inj (hm.symm.trans ht)⟩
      | member hm _ _ => cases hm.symm.trans ht
    · rintro (hm | ⟨-, rfl⟩)
      · cases hm
      · exact .own ht nofun
  | one n =>
    obtain ⟨f, hn⟩ := hf n List.mem_cons_self
    refine ⟨fun ho => ?_, ?_⟩
    · cases ho with
      | own hm _ => exact .inl (List.mem_singleton.2 (Option.some.inj (hm.symm.trans ht)))
      | member hm _ _ => exact absurd (Option.some.inj (ht.symm.trans hm)) (not_union_of_family hn _)
    · rintro (hm | ⟨hnil, -⟩)
      · cases List.mem_singleton.1 hm
        exact .own ht (not_union_of_family hn)
      · cases hnil
  | union hlen hts =>
    refine ⟨fun ho => ?_, ?_⟩
    · cases ho with
      | own hm hno => exact absurd (Option.some.inj (hm.symm.trans ht)) (hno _)
      | member hm hmem hnode =>
        cases hm.symm.trans ht
        obtain ⟨n, hn, hnode'⟩ := exists_node_of_mem hts (SortedSet.mem_ofList.1 hmem)
        cases hnode.symm.trans hnode'
        exact .inl hn
    · rintro (hm | ⟨rfl, -⟩)
      · obtain ⟨u, hu, hnode⟩ := exists_type_of_mem hts hm
        exact .member ht (SortedSet.mem_ofList.2 hu) hnode
      · cases hlen

theorem Unfolds.card_families (h : Unfolds c g vs nodes) : (families vs).card = nodes.length := by
  have hnodup : (nodes.map Node.family?).Nodup := h.nodup
  have hset : (families vs).map .some = (nodes.map Node.family?).toFinset := by
    ext o
    rw [Finset.mem_map, List.mem_toFinset, List.mem_map]
    refine ⟨fun ⟨f, hf, ho⟩ => ?_, fun ⟨n, hn, ho⟩ => ?_⟩
    · obtain ⟨n, hn, hfam⟩ := (h.contains.exists_family f).2 hf
      exact ⟨n, hn, hfam.trans ho⟩
    · obtain ⟨f, hfam⟩ := h.family n hn
      exact ⟨f, (h.contains.exists_family f).1 ⟨n, hn, hfam⟩, hfam.symm.trans ho⟩
  rw [← Finset.card_map .some, hset, List.toFinset_card_of_nodup hnodup, List.length_map]

theorem families_eq_nil_iff : (families vs).card = 0 ↔ vs = [] := by
  rw [Finset.card_eq_zero, families, List.toFinset_eq_empty_iff, List.map_eq_nil_iff]

/-- How many nodes are combined shows in the node for all of them. -/
theorem Shape.Combined.form (h : Combined g nodes n) (hf : ∀ n ∈ nodes, ∃ f, n.family? = some f) :
    (n = .any ↔ nodes.length = 0) ∧ ((∃ f, n.family? = some f) ↔ nodes.length = 1) ∧
      ((∃ ms, n = .union ms) ↔ 2 ≤ nodes.length) := by
  cases h with
  | any => simp [Node.family?]
  | one n =>
    obtain ⟨f, hn⟩ := hf n List.mem_cons_self
    have hany : n ≠ .any := by
      rintro rfl
      cases hn
    simp [hn, hany, not_union_of_family hn]
  | union hlen hts =>
    have h0 : nodes.length ≠ 0 := by omega
    have h1 : nodes.length ≠ 1 := by omega
    simp [Node.family?, hlen, h0, h1]

theorem Unfolds.formed (h : Unfolds c g vs nodes) (hn : Combined g nodes n)
    (ht : g.node? t = some n) : Formed g vs t := by
  have hnode : ∀ m, g.node? t = some m ↔ n = m := fun m => by rw [ht, Option.some_inj]
  have hunion : ∀ ms, g.node? t = some (.union ms) → ∃ types,
      List.Forall₂ (fun n t => g.node? t = some n) nodes types ∧ ms = .ofList types := by
    intro ms hms
    cases hn with
    | any => cases hms.symm.trans ht
    | one n =>
      obtain ⟨f, hf⟩ := h.family n List.mem_cons_self
      exact absurd ((hnode _).1 hms) (not_union_of_family hf ms)
    | @union _ types _ hts =>
      cases hms.symm.trans ht
      exact ⟨types, hts, rfl⟩
  obtain ⟨hany, hbare, hmany⟩ := hn.form h.family
  rw [← h.card_families] at hany hbare hmany
  refine ⟨?_, ?_, ?_, fun ms hms m hm => ?_, fun ms hms m hm m' hm' n n' hn hn' hf => ?_,
    fun m hm => ?_⟩
  · rw [hnode, hany, families_eq_nil_iff]
  · simpa [hnode] using hbare
  · simpa [hnode] using hmany
  · obtain ⟨types, hts, rfl⟩ := hunion ms hms
    obtain ⟨n', hn', hm⟩ := exists_node_of_mem hts (SortedSet.mem_ofList.1 hm)
    obtain ⟨f, hf⟩ := h.family n' hn'
    exact ⟨n', f, hm, hf⟩
  · obtain ⟨types, hts, rfl⟩ := hunion ms hms
    exact type_eq_of_family hts h.nodup (SortedSet.mem_ofList.1 hm) (SortedSet.mem_ofList.1 hm') hn
      hn' hf
  · rcases (hn.offers_iff ht h.family m).1 hm with hm | ⟨-, rfl⟩
    · exact .inr (h.family m hm)
    · exact .inl rfl

/-- What a type inferred from values offers, told by its nodes. -/
theorem Inferred.exists_offers (h : Inferred c g vs t) : ∃ nodes, Unfolds c g vs nodes ∧
    Formed g vs t ∧ ∀ n f, n.family? = some f → (n ∈ nodes ↔ g.Offers t n) := by
  obtain ⟨nodes, n, hnodes, hn, ht⟩ := h.exists_unfolds
  refine ⟨nodes, hnodes, hnodes.formed hn ht, fun m f hf => ?_⟩
  rw [hn.offers_iff ht hnodes.family, or_iff_left]
  rintro ⟨-, rfl⟩
  cases hf

theorem Inferred.exact (h : Inferred c g vs t) (hkeys : ∀ v ∈ vs, v.KeysDistinct) :
    Exact g vs t := by
  obtain ⟨nodes, hnodes, hformed, hoffers⟩ := h.exists_offers
  refine ⟨hnodes.contains.congr hoffers, hformed, fun ps hps => ?_⟩
  have hmem := (hoffers _ .object rfl).2 hps
  refine ⟨hnodes.keys ps hmem, fun key p hp => ?_⟩
  have hobjects : ∀ members ∈ vs.filterMap Json.object?, (Entries.keys members).Nodup :=
    fun members hm => (hkeys _ (Json.mem_filterMap_object?.1 hm)).1
  rw [(hnodes.property ps hmem key p hp).2, Json.descend, Json.length_under_lt_iff hobjects]
  simp only [Json.mem_filterMap_object?]

/-- A type offers one node of a family at most. -/
theorem Inferred.offers_unique (h : Inferred c g vs t) {n n' : Node} {f : Family}
    (hn : g.Offers t n) (hn' : g.Offers t n') (hf : n.family? = some f) (hf' : n'.family? = some f) :
    n = n' := by
  obtain ⟨nodes, hnodes, -, hoffers⟩ := h.exists_offers
  exact List.inj_on_of_nodup_map hnodes.nodup ((hoffers n f hf).2 hn) ((hoffers n' f hf').2 hn')
    (hf.trans hf'.symm)

/-! ## Places -/

variable {d : Json.Descent} {u u' : TypeRef}

/-- A step in the graph leads to what was inferred from where the step leads in the values. -/
theorem Inferred.descend (h : Inferred c g vs t) (hu : g.Descends t d u) :
    Json.Admits vs d ∧ Inferred c g (Json.descend vs d) u := by
  obtain ⟨nodes, hnodes, -, hoffers⟩ := h.exists_offers
  cases hu with
  | element ho =>
    have hmem := (hoffers _ .array rfl).2 ho
    exact ⟨hnodes.contains.array.1 ⟨_, hmem⟩, hnodes.array _ hmem⟩
  | member ho hp =>
    have hmem := (hoffers _ .object rfl).2 ho
    exact ⟨(hnodes.keys _ hmem _).1 ⟨_, hp⟩, (hnodes.property _ hmem _ _ hp).1⟩

theorem Inferred.exists_descends (h : Inferred c g vs t) (hd : Json.Admits vs d) :
    ∃ u, g.Descends t d u := by
  obtain ⟨nodes, hnodes, -, hoffers⟩ := h.exists_offers
  cases d with
  | element =>
    obtain ⟨items, hitems⟩ := hnodes.contains.array.2 hd
    exact ⟨items, .element ((hoffers _ .array rfl).1 hitems)⟩
  | member key =>
    obtain ⟨members, hmembers, hkey⟩ := hd
    obtain ⟨ps, hps⟩ := hnodes.contains.object.2 ⟨members, hmembers⟩
    obtain ⟨p, hp⟩ := (hnodes.keys ps hps key).2 ⟨members, hmembers, hkey⟩
    exact ⟨p.type, .member ((hoffers _ .object rfl).1 hps) hp⟩

theorem Inferred.descends_unique (h : Inferred c g vs t) (hu : g.Descends t d u)
    (hu' : g.Descends t d u') : u = u' := by
  cases hu with
  | element ho =>
    cases hu' with
    | element ho' =>
      cases h.offers_unique ho ho' rfl rfl
      rfl
  | member ho hp =>
    cases hu' with
    | member ho' hp' =>
      cases h.offers_unique ho ho' rfl rfl
      cases hp.symm.trans hp'
      rfl

/-- The types at the places of a type are inferred from the values at these places. -/
theorem Inferred.typeAt {p : List Json.Descent} (h : Inferred c g vs t) (hu : g.TypeAt t p u) :
    Inferred c g (Json.valuesAt vs p) u := by
  induction p generalizing vs t with
  | nil => exact hu ▸ h
  | cons d rest ih =>
    obtain ⟨m, hm, hu⟩ := hu
    exact ih (h.descend hm).2 hu

theorem Inferred.exists_typeAt {p : List Json.Descent} (h : Inferred c g vs t) :
    (∃ u, g.TypeAt t p u) ↔ Json.HasPlace vs p := by
  induction p generalizing vs t with
  | nil => exact ⟨fun _ => trivial, fun _ => ⟨t, rfl⟩⟩
  | cons d rest ih =>
    refine ⟨fun ⟨u, m, hm, hu⟩ => ?_, fun ⟨hd, hrest⟩ => ?_⟩
    · obtain ⟨hd, hinferred⟩ := h.descend hm
      exact ⟨hd, (ih hinferred).1 ⟨u, hu⟩⟩
    · obtain ⟨m, hm⟩ := h.exists_descends hd
      obtain ⟨u, hu⟩ := (ih (h.descend hm).2).2 hrest
      exact ⟨u, m, hm, hu⟩

theorem Inferred.typeAt_unique {p : List Json.Descent} (h : Inferred c g vs t)
    (hu : g.TypeAt t p u) (hu' : g.TypeAt t p u') : u = u' := by
  induction p generalizing vs t with
  | nil => exact Eq.trans hu (Eq.symm hu')
  | cons d rest ih =>
    obtain ⟨m, hm, hu⟩ := hu
    obtain ⟨m', hm', hu'⟩ := hu'
    cases h.descends_unique hm hm'
    exact ih (h.descend hm).2 hu hu'

theorem keysDistinct_valuesAt (h : ∀ v ∈ vs, v.KeysDistinct) (p : List Json.Descent) :
    ∀ v ∈ Json.valuesAt vs p, v.KeysDistinct := by
  induction p generalizing vs with
  | nil => exact h
  | cons d rest ih => exact ih (Json.keysDistinct_descend h d)

end Unfolds

section Infer

variable {c : InferenceConfig} {fresh : Bool} {samples : List Json} {g g' : Graph} {t : TypeRef}

theorem inferred_of_infer (hg : g.Exact) (h : infer c fresh samples g = (.ok t, g')) :
    Inferred c g' samples t := by
  rcases infer_cases c fresh samples hg with ⟨-, he⟩ | ⟨-, -, he⟩ | ⟨-, -, t₁, g₁, he, -, -, ht⟩
  · cases h.symm.trans he
  · cases h.symm.trans he
  · cases h.symm.trans he
    exact ht

/-- There is a type just at the places of the samples, one at each, and it says exactly what kinds
of values the samples have there. -/
theorem infer_exact (hg : g.Reachable) (hkeys : ∀ v ∈ samples, v.KeysDistinct)
    (h : infer c fresh samples g = (.ok t, g')) (p : List Json.Descent) :
    ((∃ u, g'.TypeAt t p u) ↔ Json.HasPlace samples p) ∧
      (∀ u u', g'.TypeAt t p u → g'.TypeAt t p u' → u = u') ∧
      ∀ u, g'.TypeAt t p u → Exact g' (Json.valuesAt samples p) u := by
  have ht := inferred_of_infer hg.exact h
  exact ⟨ht.exists_typeAt, fun _ _ => ht.typeAt_unique, fun _ hu =>
    (ht.typeAt hu).exact (keysDistinct_valuesAt hkeys p)⟩

/-- The elements of an array that one of two objects has under a key. -/
theorem infer_exact_elements :
    let samples : List Json :=
      [.object [("a", .int 1), ("b", .array [.null, .string "x"])], .object [("b", .bool true)]]
    let p : List Json.Descent := [.member "b", .element]
    Graph.empty.Reachable ∧ (∀ v ∈ samples, v.KeysDistinct) ∧ ∃ t g' u,
      infer .default false samples .empty = (.ok t, g') ∧ g'.TypeAt t p u ∧
        Exact g' [.null, .string "x"] u := by
  intro samples p
  have hg : Graph.empty.Reachable := ⟨_, .empty⟩
  have hkeys : ∀ v ∈ samples, v.KeysDistinct := by
    simp [samples, Json.KeysDistinct, Json.KeysDistinctAll, Json.KeysDistinctMembers, Json.int]
  have hfit : ¬∃ v ∈ samples, InferenceConfig.default.maxDepth < v.height := by
    simp [samples, Json.height, Json.heightAll, Json.heightMembers, Json.int,
      InferenceConfig.default]
  have hplace : Json.HasPlace samples p := by
    simp [samples, p, Json.HasPlace, Json.Admits, Json.descend, Json.under, Json.object?,
      Entries.keys]
  rcases infer_cases .default false samples hg.exact with ⟨hnil, -⟩ | ⟨-, hdeep, -⟩ |
    ⟨-, -, t, g', h, -⟩
  · exact absurd hnil (List.cons_ne_nil _ _)
  · exact absurd hdeep hfit
  · obtain ⟨hiff, -, hexact⟩ := infer_exact hg hkeys h p
    obtain ⟨u, hu⟩ := hiff.2 hplace
    exact ⟨hg, hkeys, t, g', u, h, hu, hexact u hu⟩

end Infer

end JsonTypes
