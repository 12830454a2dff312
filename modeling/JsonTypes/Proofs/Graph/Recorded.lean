import Mathlib.Tactic.Common
import JsonTypes.Graph.Basic

/-!
# Graphs with the calls that made them

A recorded graph is a sink that keeps every call beside the graph, so that what was reserved and
what was filled can be told (`reserved`, `filled`). `Built` are the recorded graphs that calls
make from the empty one, if a fill only targets a slot that was reserved. Their calls tell the graph
(`Built.graph_eq`).

In a built graph the table of interned nodes says what the arena holds (`Graph.Exact`), because
nothing that is interned is ever a slot (`Built.tidy`).
-/

namespace JsonTypes

namespace Graph

/-- The table of interned nodes says what the arena holds. -/
def Exact (g : Graph) : Prop := ∀ n t, g.interned.get? n = some t → g.node? t = some n

/-- Every node is still there. -/
def Extends (g g' : Graph) : Prop := ∀ t n, g.node? t = some n → g'.node? t = some n

theorem Extends.refl (g : Graph) : g.Extends g := fun _ _ h => h

theorem Extends.trans {g₁ g₂ g₃ : Graph} (h : g₁.Extends g₂) (h' : g₂.Extends g₃) :
    g₁.Extends g₃ := fun t n ht => h' t n (h t n ht)

theorem lt_size_of_node? {g : Graph} {t : TypeRef} {n : Node} (h : g.node? t = some n) :
    t < g.size := (Array.getElem?_eq_some_iff.1 h).1

theorem Extends.size_le {g g' : Graph} (h : g.Extends g') : g.size ≤ g'.size := by
  by_contra hlt
  have hlast : g'.size < g.size := Nat.lt_of_not_le hlt
  have hnode : g.node? g'.size = some _ := Array.getElem?_eq_getElem hlast
  exact absurd (lt_size_of_node? (h _ _ hnode)) (Nat.lt_irrefl _)

theorem node?_push (g : Graph) (n : Node) (interned : Entries Node TypeRef) (t : TypeRef) :
    ({ g with nodes := g.nodes.push n, interned := interned } : Graph).node? t =
      if t = g.size then some n else g.node? t :=
  Array.getElem?_push

theorem addFresh_extends (n : Node) (g : Graph) : g.Extends (addFresh n g).2 := by
  intro t m h
  have := lt_size_of_node? h
  rw [addFresh, node?_push, if_neg (Nat.ne_of_lt this)]
  exact h

theorem node?_addFresh (n : Node) (g : Graph) :
    (addFresh n g).2.node? (addFresh n g).1 = some n := by
  rw [addFresh, node?_push]
  exact if_pos rfl

theorem addFresh_exact {n : Node} {g : Graph} (h : g.Exact) : (addFresh n g).2.Exact :=
  fun m t ht => addFresh_extends n g t m (h m t ht)

theorem intern_of_get? {n : Node} {g : Graph} {t : TypeRef} (h : g.interned.get? n = some t) :
    intern n g = (t, g) := by
  simp only [intern, h]

theorem intern_of_none {n : Node} {g : Graph} (h : g.interned.get? n = none) :
    intern n g = (g.size, { g with
      nodes := g.nodes.push n, interned := g.interned ++ [(n, g.size)] }) := by
  simp only [intern, h]
  rfl

theorem intern_extends (n : Node) (g : Graph) : g.Extends (intern n g).2 := by
  rcases h : g.interned.get? n with _ | t
  · intro t m ht
    have := lt_size_of_node? ht
    rw [intern_of_none h, node?_push, if_neg (Nat.ne_of_lt this)]
    exact ht
  · rw [intern_of_get? h]
    exact .refl g

theorem get?_interned_intern (n m : Node) (g : Graph) :
    (intern n g).2.interned.get? m =
      (g.interned.get? m).or (if n = m then some (intern n g).1 else none) := by
  rcases h : g.interned.get? n with _ | t
  · rw [intern_of_none h]
    exact Entries.get?_append_single _ _ _ _
  · rw [intern_of_get? h]
    by_cases hm : n = m
    · subst hm
      simp [h]
    · simp [hm]

theorem get?_interned_intern_self (n : Node) (g : Graph) :
    (intern n g).2.interned.get? n = some (intern n g).1 := by
  rcases h : g.interned.get? n with _ | t
  · rw [get?_interned_intern, h]
    simp
  · rw [intern_of_get? h]
    exact h

theorem node?_intern {n : Node} {g : Graph} (h : g.Exact) :
    (intern n g).2.node? (intern n g).1 = some n := by
  rcases hn : g.interned.get? n with _ | t
  · rw [intern_of_none hn, node?_push, if_pos rfl]
  · rw [intern_of_get? hn]
    exact h n t hn

theorem intern_exact {n : Node} {g : Graph} (h : g.Exact) : (intern n g).2.Exact := by
  intro m t ht
  rw [get?_interned_intern] at ht
  rcases hm : g.interned.get? m with _ | t'
  · rw [hm, Option.none_or] at ht
    split_ifs at ht with he
    subst he
    cases ht
    exact node?_intern h
  · rw [hm, Option.some_or] at ht
    exact intern_extends n g t m (h m t (hm.trans ht))

theorem node?_fill (g : Graph) (slot : TypeRef) (n : Node) (t : TypeRef) :
    (fill slot n g).2.node? t = if t = slot ∧ t < g.size then some n else g.node? t := by
  have hs : (g.nodes.setIfInBounds slot n)[t]? =
      if t = slot ∧ t < g.size then some n else g.nodes[t]? := by
    rw [Array.getElem?_setIfInBounds, size]
    by_cases h : slot = t
    · subst h
      by_cases hlt : slot < g.nodes.size <;> simp [hlt]
    · simp [h, Ne.symm h]
  exact hs

theorem size_fill (g : Graph) (slot : TypeRef) (n : Node) : (fill slot n g).2.size = g.size :=
  Array.size_setIfInBounds

theorem attributes_unread (a : Attributes) (t : TypeRef) (g : Graph) :
    (addAttributes t a g).2.nodes = g.nodes ∧ (addAttributes t a g).2.interned = g.interned ∧
      (addAttributes t a g).2.topLevels = g.topLevels := by
  unfold addAttributes
  split <;> exact ⟨rfl, rfl, rfl⟩

end Graph

/-! ## Recorded graphs -/

/-- A call of a sink with what it answered. -/
inductive SinkCall where
  | intern (n : Node) (type : TypeRef)
  | addFresh (n : Node) (type : TypeRef)
  | reserve (slot : TypeRef)
  | fill (slot : TypeRef) (n : Node)
  | addTopLevel (name : String) (type : TypeRef)
  | addAttributes (type : TypeRef) (a : Attributes)

/-- What a call does to a graph, whatever it answers there. -/
def SinkCall.run : SinkCall → Graph → Graph
  | .intern n _, g => (Graph.intern n g).2
  | .addFresh n _, g => (Graph.addFresh n g).2
  | .reserve _, g => (Graph.reserve g).2
  | .fill slot n, g => (Graph.fill slot n g).2
  | .addTopLevel name type, g => (Graph.addTopLevel name type g).2
  | .addAttributes type a, g => (Graph.addAttributes type a g).2

/-- Makes calls of a graph in turn. -/
def Graph.replay (g : Graph) (calls : List SinkCall) : Graph :=
  calls.foldl (fun g call => call.run g) g

theorem Graph.replay_concat (g : Graph) (calls : List SinkCall) (call : SinkCall) :
    g.replay (calls ++ [call]) = call.run (g.replay calls) :=
  List.foldl_append

/-- A graph with the calls that were made of it, in order. -/
structure Recorded where
  graph : Graph
  calls : List SinkCall

namespace Recorded

/-- Makes a call of the graph and records it. -/
def record {α : Type} (action : Build α) (call : α → SinkCall) : StateM Recorded α := fun r =>
  ((action r.graph).1, ⟨(action r.graph).2, r.calls ++ [call (action r.graph).1]⟩)

instance : Sink Recorded where
  intern n := record (Graph.intern n) (.intern n)
  addFresh n := record (Graph.addFresh n) (.addFresh n)
  reserve := record Graph.reserve .reserve
  fill slot n := record (Graph.fill slot n) fun _ => .fill slot n
  addTopLevel name type := record (Graph.addTopLevel name type) fun _ => .addTopLevel name type
  addAttributes type a := record (Graph.addAttributes type a) fun _ => .addAttributes type a

def slot? : SinkCall → Option TypeRef
  | .reserve slot => some slot
  | _ => none

def target? : SinkCall → Option TypeRef
  | .fill slot _ => some slot
  | _ => none

def name? : SinkCall → Option String
  | .addTopLevel name _ => some name
  | _ => none

/-- The slots that were reserved, in order. -/
def reserved (r : Recorded) : List TypeRef := r.calls.filterMap slot?

/-- The targets of all fills, in order. -/
def filled (r : Recorded) : List TypeRef := r.calls.filterMap target?

/-- The names of all top levels that were added, in order. -/
def named (r : Recorded) : List String := r.calls.filterMap name?

/-- The recorded graphs that calls make from the empty one. A fill only targets a slot that was
reserved, and every node that is given must be allowed. -/
inductive Built (allowed : Graph → Node → Prop) : Recorded → Prop
  | empty : Built allowed ⟨.empty, []⟩
  | intern {r : Recorded} (n : Node) : Built allowed r → allowed r.graph n →
      Built allowed (Sink.intern n r).2
  | addFresh {r : Recorded} (n : Node) : Built allowed r → allowed r.graph n →
      Built allowed (Sink.addFresh n r).2
  | reserve {r : Recorded} : Built allowed r → Built allowed ((Sink.reserve : StateM _ _) r).2
  | fill {r : Recorded} (slot : TypeRef) (n : Node) : Built allowed r → slot ∈ r.reserved →
      allowed r.graph n → Built allowed (Sink.fill slot n r).2
  | addTopLevel {r : Recorded} (name : String) (type : TypeRef) : Built allowed r →
      Built allowed (Sink.addTopLevel name type r).2
  | addAttributes {r : Recorded} (type : TypeRef) (a : Attributes) : Built allowed r →
      Built allowed (Sink.addAttributes type a r).2

/-- The calls that were recorded tell the graph. -/
theorem Built.graph_eq {allowed : Graph → Node → Prop} {r : Recorded} (h : r.Built allowed) :
    r.graph = Graph.empty.replay r.calls := by
  have step : ∀ {r r' : Recorded} (call : SinkCall), r'.calls = r.calls ++ [call] →
      r'.graph = call.run r.graph → r.graph = Graph.empty.replay r.calls →
      r'.graph = Graph.empty.replay r'.calls := by
    intro r r' call hcalls hgraph ih
    rw [hcalls, Graph.replay_concat, ← ih, hgraph]
  induction h with
  | empty => rfl
  | @intern r n _ _ ih => exact step (.intern n (Graph.intern n r.graph).1) rfl rfl ih
  | @addFresh r n _ _ ih => exact step (.addFresh n r.graph.size) rfl rfl ih
  | @reserve r _ ih => exact step (.reserve r.graph.size) rfl rfl ih
  | fill slot n _ _ _ ih => exact step (.fill slot n) rfl rfl ih
  | addTopLevel name type _ ih => exact step (.addTopLevel name type) rfl rfl ih
  | addAttributes type a _ ih => exact step (.addAttributes type a) rfl rfl ih

section Calls

variable (r : Recorded) (n : Node) (slot : TypeRef)

theorem filterMap_concat {α β : Type} (f : α → Option β) (as : List α) (a : α) :
    (as ++ [a]).filterMap f = as.filterMap f ++ (f a).toList := by
  rw [List.filterMap_append]
  rcases h : f a with _ | b <;> simp [h]

section Record

variable {α : Type} (action : Build α) (call : α → SinkCall)

theorem reserved_record : (record action call r).2.reserved =
    r.reserved ++ (slot? (call (action r.graph).1)).toList :=
  filterMap_concat _ _ _

theorem filled_record : (record action call r).2.filled =
    r.filled ++ (target? (call (action r.graph).1)).toList :=
  filterMap_concat _ _ _

theorem named_record : (record action call r).2.named =
    r.named ++ (name? (call (action r.graph).1)).toList :=
  filterMap_concat _ _ _

end Record

variable {r n} in
theorem intern_of_none (h : r.graph.interned.get? n = none) :
    Sink.intern n r = (r.graph.size, (⟨{ r.graph with
      nodes := r.graph.nodes.push n, interned := r.graph.interned ++ [(n, r.graph.size)] },
      r.calls ++ [.intern n r.graph.size]⟩ : Recorded)) := by
  change record _ _ r = _
  rw [record, Graph.intern_of_none h]

variable {r n} in
theorem intern_of_get? {t : TypeRef} (h : r.graph.interned.get? n = some t) :
    Sink.intern n r = (t, (⟨r.graph, r.calls ++ [.intern n t]⟩ : Recorded)) := by
  change record _ _ r = _
  rw [record, Graph.intern_of_get? h]

theorem reserved_intern : (Sink.intern n r).2.reserved = r.reserved :=
  (reserved_record r _ _).trans (List.append_nil _)

theorem reserved_addFresh : (Sink.addFresh n r).2.reserved = r.reserved :=
  (reserved_record r _ _).trans (List.append_nil _)

theorem reserved_reserve :
    ((Sink.reserve : StateM _ _) r).2.reserved = r.reserved ++ [r.graph.size] :=
  reserved_record r _ _

theorem reserved_fill : (Sink.fill slot n r).2.reserved = r.reserved :=
  (reserved_record r _ _).trans (List.append_nil _)

theorem filled_fill : (Sink.fill slot n r).2.filled = r.filled ++ [slot] :=
  filled_record r _ _

theorem reserved_addTopLevel (name : String) (type : TypeRef) :
    (Sink.addTopLevel name type r).2.reserved = r.reserved :=
  (reserved_record r _ _).trans (List.append_nil _)

theorem reserved_addAttributes (type : TypeRef) (a : Attributes) :
    (Sink.addAttributes type a r).2.reserved = r.reserved :=
  (reserved_record r _ _).trans (List.append_nil _)

end Calls

/-- Slots are in the arena, and nothing that is interned is a slot. -/
structure Tidy (r : Recorded) : Prop where
  exact : r.graph.Exact
  apart : ∀ n t, r.graph.interned.get? n = some t → t ∉ r.reserved
  lt_size : ∀ t ∈ r.reserved, t < r.graph.size

namespace Tidy

variable {r : Recorded}

theorem intern (h : r.Tidy) (n : Node) : (Sink.intern n r).2.Tidy where
  exact := Graph.intern_exact h.exact
  apart m t ht := by
    rw [reserved_intern]
    intro hr
    rw [show (Sink.intern n r).2.graph = (Graph.intern n r.graph).2 from rfl,
      Graph.get?_interned_intern] at ht
    rcases hm : r.graph.interned.get? m with _ | t'
    · rw [hm, Option.none_or] at ht
      split_ifs at ht with he
      subst he
      cases ht
      rw [Graph.intern_of_none hm] at hr
      exact absurd (h.lt_size _ hr) (Nat.lt_irrefl _)
    · rw [hm] at ht
      exact h.apart m t (hm.trans ht) hr
  lt_size t ht := by
    rw [reserved_intern] at ht
    obtain ⟨m, hm⟩ : ∃ m, r.graph.node? t = some m :=
      ⟨_, Array.getElem?_eq_getElem (h.lt_size t ht)⟩
    exact Graph.lt_size_of_node? (Graph.intern_extends n r.graph t m hm)

/-- A node at the end of the arena leaves the table alone. Its type may be a slot. -/
theorem push (h : r.Tidy) (n : Node) {r' : Recorded} (hg : r'.graph = (Graph.addFresh n r.graph).2)
    (hr : ∀ t ∈ r'.reserved, t ∈ r.reserved ∨ t = r.graph.size) : r'.Tidy where
  exact := hg ▸ Graph.addFresh_exact h.exact
  apart m t ht hs := by
    rw [hg] at ht
    rcases hr t hs with hs | rfl
    · exact h.apart m t ht hs
    · exact absurd (Graph.lt_size_of_node? (h.exact m _ ht)) (Nat.lt_irrefl _)
  lt_size t ht := by
    have hsize : r'.graph.size = r.graph.size + 1 := by
      rw [hg]
      exact Array.size_push _
    rcases hr t ht with ht | rfl
    · exact hsize ▸ Nat.lt_succ_of_lt (h.lt_size t ht)
    · exact hsize ▸ Nat.lt_succ_self _

theorem fill (h : r.Tidy) {slot : TypeRef} (hs : slot ∈ r.reserved) (n : Node) :
    (Sink.fill slot n r).2.Tidy where
  exact m t ht := by
    have hne : t ≠ slot := fun e => h.apart m t ht (e ▸ hs)
    change (Graph.fill slot n r.graph).2.node? t = some m
    rw [Graph.node?_fill, if_neg fun hc => hne hc.1]
    exact h.exact m t ht
  apart m t ht := by
    rw [reserved_fill]
    exact h.apart m t ht
  lt_size t ht := by
    rw [reserved_fill] at ht
    exact (Graph.size_fill r.graph slot n).symm ▸ h.lt_size t ht

theorem congr (h : r.Tidy) {r' : Recorded} (hn : r'.graph.nodes = r.graph.nodes)
    (hi : r'.graph.interned = r.graph.interned) (hr : r'.reserved = r.reserved) : r'.Tidy where
  exact m t ht := by
    rw [Graph.node?, hn]
    exact h.exact m t (hi ▸ ht)
  apart m t ht := hr ▸ h.apart m t (hi ▸ ht)
  lt_size t ht := by
    rw [Graph.size, hn]
    exact h.lt_size t (hr ▸ ht)

end Tidy

theorem Built.tidy {allowed : Graph → Node → Prop} {r : Recorded} (h : r.Built allowed) :
    r.Tidy := by
  induction h with
  | empty => exact ⟨nofun, nofun, nofun⟩
  | intern n _ _ ih => exact ih.intern n
  | @addFresh r n _ _ ih => exact ih.push n rfl fun t ht => .inl (reserved_addFresh r n ▸ ht)
  | @reserve r _ ih =>
    refine ih.push .any rfl fun t ht => ?_
    rw [reserved_reserve, List.mem_append, List.mem_singleton] at ht
    exact ht
  | fill slot n _ hs _ ih => exact ih.fill hs n
  | @addTopLevel r name type _ ih => exact ih.congr rfl rfl (reserved_addTopLevel r name type)
  | @addAttributes r type a _ ih =>
    obtain ⟨hn, hi, -⟩ := Graph.attributes_unread a type r.graph
    exact ih.congr hn hi (reserved_addAttributes r type a)

end Recorded

/-- The graphs that sink calls make, whatever their nodes point at. -/
def Graph.Reachable (g : Graph) : Prop := ∃ calls, Recorded.Built (fun _ _ => True) ⟨g, calls⟩

theorem Graph.Reachable.exact {g : Graph} (h : g.Reachable) : g.Exact := by
  obtain ⟨calls, hb⟩ := h
  exact hb.tidy.exact

end JsonTypes
