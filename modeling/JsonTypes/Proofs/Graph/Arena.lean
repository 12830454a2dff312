import JsonTypes.Proofs.Graph.Recorded

/-!
# The arena of a graph

The calls that were made of a graph tell which types it has. A type is made when a node is interned
for the first time, when one is added fresh and when a slot is reserved, and types are the indexes
`0, 1, 2, …` in the order in which they are made (`Recorded.made`). The table of interned nodes is
the list of these calls turned around, and only a fill ever writes over a node, so that interned and
fresh types keep theirs (`Recorded.Built.arena`).
-/

namespace JsonTypes.Recorded

/-- The type that a call answers with. -/
def answer? : SinkCall → Option TypeRef
  | .intern _ t => some t
  | .addFresh _ t => some t
  | .reserve t => some t
  | _ => none

def interned? : SinkCall → Option Node
  | .intern n _ => some n
  | _ => none

/-- The type that a call makes, if these calls came before it. A node that was interned already
makes none. -/
def made? (before : List SinkCall) : SinkCall → Option TypeRef
  | .intern n t => if n ∈ before.filterMap interned? then none else some t
  | call => answer? call

/-- The types that calls make in turn, if these calls came before them. -/
def made (before : List SinkCall) : List SinkCall → List TypeRef
  | [] => []
  | call :: rest => (made? before call).toList ++ made (before ++ [call]) rest

variable {r r' : Recorded} {before calls : List SinkCall} {call : SinkCall} {n : Node}
  {t : TypeRef}

theorem made_append (before calls more : List SinkCall) :
    made before (calls ++ more) = made before calls ++ made (before ++ calls) more := by
  induction calls generalizing before with
  | nil => rw [List.append_nil]; rfl
  | cons call rest ih =>
    rw [List.cons_append, made, ih, List.append_assoc, List.singleton_append, made,
      List.append_assoc]

theorem made_concat (calls : List SinkCall) (call : SinkCall) :
    made [] (calls ++ [call]) = made [] calls ++ (made? calls call).toList := by
  rw [made_append, made, made, List.append_nil, List.nil_append]

theorem interned?_eq_some_iff : interned? call = some n ↔ ∃ t, call = .intern n t := by
  cases call <;> simp [interned?]

theorem mem_interned_iff : n ∈ calls.filterMap interned? ↔ ∃ t, .intern n t ∈ calls := by
  simp only [List.mem_filterMap, interned?_eq_some_iff]
  constructor
  · rintro ⟨call, hc, t, rfl⟩
    exact ⟨t, hc⟩
  · rintro ⟨t, ht⟩
    exact ⟨_, ht, t, rfl⟩

theorem slot?_eq_some_iff : slot? call = some t ↔ call = .reserve t := by
  cases call <;> simp [slot?]

theorem mem_reserved_iff : t ∈ r.reserved ↔ .reserve t ∈ r.calls := by
  simp [reserved, slot?_eq_some_iff]

/-- What a call makes, it answers with. -/
theorem answer?_of_made? (h : made? before call = some t) : answer? call = some t := by
  cases call with
  | intern n u =>
    rw [made?] at h
    split_ifs at h
    exact h
  | _ => exact h

theorem exists_answer_of_mem_made (h : t ∈ made before calls) :
    ∃ call ∈ calls, answer? call = some t := by
  induction calls generalizing before with
  | nil => cases h
  | cons call rest ih =>
    rcases List.mem_append.1 h with h | h
    · exact ⟨call, List.mem_cons_self, answer?_of_made? (Option.mem_toList.1 h)⟩
    · obtain ⟨call', hc, ht⟩ := ih h
      exact ⟨call', List.mem_cons_of_mem _ hc, ht⟩

/-- The calls account for the arena: for its table, for the types that were added fresh, and for
its size. -/
structure Accounted (r : Recorded) : Prop where
  interned : ∀ n t, r.graph.interned.get? n = some t ↔ .intern n t ∈ r.calls
  fresh : ∀ n t, .addFresh n t ∈ r.calls → r.graph.node? t = some n ∧ .reserve t ∉ r.calls ∧
    ∀ m, .intern m t ∉ r.calls
  made : made [] r.calls = List.range r.graph.size

/-- Whatever was answered is in the arena. -/
theorem Accounted.lt_size (h : r.Accounted) (ht : r.Tidy) (hc : call ∈ r.calls)
    (ha : answer? call = some t) : t < r.graph.size := by
  cases call with
  | intern n u =>
    cases ha
    exact Graph.lt_size_of_node? (ht.exact n t ((h.interned n t).2 hc))
  | addFresh n u =>
    cases ha
    exact Graph.lt_size_of_node? (h.fresh n t hc).1
  | reserve u =>
    cases ha
    exact ht.lt_size t (mem_reserved_iff.2 hc)
  | _ => cases ha

/-- A call that makes no type leaves the account as it was, if the only nodes that it writes over
are in slots. -/
theorem Accounted.keep (h : r.Accounted) (hcalls : r'.calls = r.calls ++ [call])
    (hmade : made? r.calls call = none)
    (hmem : ∀ c t, answer? c = some t → (c ∈ r'.calls ↔ c ∈ r.calls))
    (hinterned : r'.graph.interned = r.graph.interned) (hsize : r'.graph.size = r.graph.size)
    (hnode : ∀ t, .reserve t ∉ r.calls → r'.graph.node? t = r.graph.node? t) : r'.Accounted where
  interned n t := by rw [hinterned, h.interned, hmem (.intern n t) t rfl]
  fresh n t ht := by
    rw [hmem (.addFresh n t) t rfl] at ht
    obtain ⟨hn, hslot, hshared⟩ := h.fresh n t ht
    refine ⟨(hnode t hslot).trans hn, ?_, fun m => ?_⟩
    · rwa [hmem (.reserve t) t rfl]
    · rw [hmem (.intern m t) t rfl]
      exact hshared m
  made := by rw [hcalls, made_concat, hmade, Option.toList_none, List.append_nil, h.made, hsize]

/-- A type at the end of the arena has not been answered before. -/
theorem Accounted.push (h : r.Accounted) (ht : r.Tidy) (hcalls : r'.calls = r.calls ++ [call])
    (hmade : made? r.calls call = some r.graph.size)
    (hnodes : r'.graph.nodes = r.graph.nodes.push n)
    (hinterned : ∀ m u, r'.graph.interned.get? m = some u ↔
      r.graph.interned.get? m = some u ∨ call = .intern m u)
    (hfresh : ∀ m u, call = .addFresh m u → m = n) : r'.Accounted := by
  have hanswer := answer?_of_made? hmade
  have hsize : r'.graph.size = r.graph.size + 1 := by
    rw [Graph.size, hnodes, Array.size_push, Graph.size]
  have hnode : ∀ u, r'.graph.node? u = if u = r.graph.size then some n else r.graph.node? u :=
    fun u => by
      rw [Graph.node?, hnodes]
      exact Array.getElem?_push
  have hmem : ∀ c, c ∈ r'.calls ↔ c ∈ r.calls ∨ call = c := fun c => by
    rw [hcalls, List.mem_append, List.mem_singleton, eq_comm]
  have hnew : ∀ c, answer? c = some r.graph.size → (c ∈ r'.calls ↔ call = c) := fun c hc => by
    rw [hmem, or_iff_right fun hold => Nat.lt_irrefl _ (h.lt_size ht hold hc)]
  have hold : ∀ c u, answer? c = some u → u ≠ r.graph.size → (c ∈ r'.calls ↔ c ∈ r.calls) := by
    intro c u hc hu
    rw [hmem, or_iff_left]
    rintro rfl
    exact hu (Option.some.inj (hc.symm.trans hanswer))
  refine ⟨fun m u => ?_, fun m u hu => ?_, ?_⟩
  · rw [hinterned, h.interned, hmem]
  · rw [hnode]
    by_cases hend : u = r.graph.size
    · subst hend
      have hcall := (hnew _ rfl).1 hu
      rw [if_pos rfl, hfresh m _ hcall, hnew _ rfl, hcall]
      refine ⟨rfl, by simp, fun m' => ?_⟩
      rw [hnew _ rfl, hcall]
      simp
    · rw [hold _ u rfl hend] at hu
      obtain ⟨hm, hslot, hshared⟩ := h.fresh m u hu
      rw [if_neg hend, hold _ u rfl hend]
      refine ⟨hm, hslot, fun m' => ?_⟩
      rw [hold _ u rfl hend]
      exact hshared m'
  · rw [hcalls, made_concat, hmade, h.made, hsize, List.range_succ]
    rfl

theorem Built.accounted {allowed : Graph → Node → Prop} (h : r.Built allowed) : r.Accounted := by
  have unanswered : ∀ {r r' : Recorded} {call : SinkCall}, r'.calls = r.calls ++ [call] →
      answer? call = none → ∀ c t, answer? c = some t → (c ∈ r'.calls ↔ c ∈ r.calls) := by
    intro r r' call hcalls hnone c t hc
    rw [hcalls, List.mem_append, List.mem_singleton, or_iff_left]
    rintro rfl
    cases hnone.symm.trans hc
  induction h with
  | empty =>
    refine ⟨fun n t => ?_, fun n t ht => absurd ht List.not_mem_nil, rfl⟩
    simp [Graph.empty, Entries.get?]
  | @intern r n hb _ ih =>
    rcases hn : r.graph.interned.get? n with _ | t
    · rw [intern_of_none hn]
      have hmade : made? r.calls (.intern n r.graph.size) = some r.graph.size := by
        refine if_neg fun hm => ?_
        obtain ⟨t, ht⟩ := mem_interned_iff.1 hm
        cases hn.symm.trans ((ih.interned n t).2 ht)
      refine ih.push hb.tidy rfl hmade rfl (fun m u => ?_) (by simp)
      rw [Entries.get?_append_single, Option.or_eq_some_iff]
      by_cases hm : n = m
      · subst hm
        simp [hn]
      · simp [hm]
    · rw [intern_of_get? hn]
      have hold : .intern n t ∈ r.calls := (ih.interned n t).1 hn
      refine ih.keep rfl (if_pos (mem_interned_iff.2 ⟨t, hold⟩)) (fun c u _ => ?_) rfl rfl
        fun _ _ => rfl
      rw [List.mem_append, List.mem_singleton, or_iff_left_of_imp]
      rintro rfl
      exact hold
  | @addFresh r n hb _ ih =>
    refine ih.push hb.tidy rfl rfl rfl (fun m u => (or_iff_left (by simp)).symm) fun m u hm => ?_
    cases hm
    rfl
  | @reserve r hb ih =>
    exact ih.push hb.tidy rfl rfl rfl (fun m u => (or_iff_left (by simp)).symm) (by simp)
  | @fill r slot n hb hslot _ ih =>
    refine ih.keep rfl rfl (unanswered rfl rfl) rfl (Graph.size_fill _ _ _) fun t ht => ?_
    have hne : t ≠ slot := fun he => ht (mem_reserved_iff.1 (he ▸ hslot))
    exact (Graph.node?_fill r.graph slot n t).trans (if_neg fun hc => hne hc.1)
  | addTopLevel name t _ ih => exact ih.keep rfl rfl (unanswered rfl rfl) rfl rfl fun _ _ => rfl
  | @addAttributes r t a _ ih =>
    obtain ⟨hnodes, hinterned, -⟩ := Graph.attributes_unread a t r.graph
    exact ih.keep rfl rfl (unanswered rfl rfl) hinterned (congrArg Array.size hnodes)
      fun u _ => congrArg (·[u]?) hnodes

/-- At two moments of a run, the second after further calls: types are the indexes of the arena in
the order in which they are made, so the arena grows by the calls that make one and by no other, and
every index in it was answered. Whenever nodes are interned, they have one type just if they are
equal. The type of a node that was interned or added fresh still has that node at the later moment.
What is interned is neither fresh nor a slot. -/
theorem Built.arena {allowed : Graph → Node → Prop} (h : r.Built allowed) (h' : r'.Built allowed)
    (hcalls : r'.calls = r.calls ++ calls) :
    made [] r'.calls = List.range r'.graph.size ∧
    r'.graph.size = r.graph.size + (made r.calls calls).length ∧
    (∀ t, t < r'.graph.size ↔ ∃ call ∈ r'.calls, answer? call = some t) ∧
    (∀ n m t u, .intern n t ∈ r'.calls → .intern m u ∈ r'.calls → (t = u ↔ n = m)) ∧
    (∀ n t, .intern n t ∈ r.calls ∨ .addFresh n t ∈ r.calls →
      r.graph.node? t = some n ∧ r'.graph.node? t = some n) ∧
    ∀ n t, .intern n t ∈ r'.calls → (∀ m, .addFresh m t ∉ r'.calls) ∧ .reserve t ∉ r'.calls := by
  have account := h.accounted
  have account' := h'.accounted
  have node : ∀ {r : Recorded} {n t}, r.Built allowed →
      (.intern n t ∈ r.calls ∨ .addFresh n t ∈ r.calls) → r.graph.node? t = some n := by
    rintro r n t hr (hn | hn)
    · exact hr.tidy.exact n t ((hr.accounted.interned n t).2 hn)
    · exact (hr.accounted.fresh n t hn).1
  have later : ∀ {call}, call ∈ r.calls → call ∈ r'.calls := fun hc =>
    hcalls ▸ List.mem_append_left _ hc
  refine ⟨account'.made, ?_, fun t => ⟨fun ht => ?_, ?_⟩, fun n m t u hn hm => ⟨?_, ?_⟩,
    fun n t hn => ⟨node h hn, node h' (hn.imp later later)⟩, fun n t hn => ⟨fun m hm => ?_, ?_⟩⟩
  · have hmade := account'.made
    rw [hcalls, made_append, account.made] at hmade
    simpa using (congrArg List.length hmade).symm
  · rw [← List.mem_range, ← account'.made] at ht
    exact exists_answer_of_mem_made ht
  · rintro ⟨call, hc, ha⟩
    exact account'.lt_size h'.tidy hc ha
  · rintro rfl
    exact Option.some.inj ((node h' (.inl hn)).symm.trans (node h' (.inl hm)))
  · rintro rfl
    exact Option.some.inj
      (((account'.interned n t).2 hn).symm.trans ((account'.interned n u).2 hm))
  · exact (account'.fresh m t hm).2.2 n hn
  · exact fun hr => h'.tidy.apart n t ((account'.interned n t).2 hn) (mem_reserved_iff.2 hr)

/-- A slot that is filled with a node which was interned, and so points at itself. -/
def knot : Recorded :=
  let r := ((Sink.reserve : StateM Recorded _) ⟨.empty, []⟩).2
  let r := (Sink.intern (.array 0) r).2
  (Sink.fill 0 (.array 0) r).2

/-- The same node interned once more and added fresh. -/
def knotAgain : Recorded :=
  let r := (Sink.intern (.array 0) knot).2
  let r := (Sink.addFresh (.array 0) r).2
  let r := (Sink.addTopLevel "Knot" 0 r).2
  (Sink.addAttributes 2 (.ofDescription "alone") r).2

theorem built_knot : knot.Built fun _ _ => True :=
  (Built.empty.reserve.intern (.array 0) trivial).fill 0 (.array 0) (by decide) trivial

theorem built_knotAgain : knotAgain.Built fun _ _ => True :=
  (((built_knot.intern (.array 0) trivial).addFresh (.array 0) trivial).addTopLevel "Knot" 0)
    |>.addAttributes 2 (.ofDescription "alone")

/-- The slot, the shared node and the fresh one are equal in the end, but they are three types. -/
theorem arena_knotAgain :
    knot.Built (fun _ _ => True) ∧ knotAgain.Built (fun _ _ => True) ∧
    made [] knotAgain.calls = [0, 1, 2] ∧ knotAgain.graph.size = knot.graph.size + 1 ∧
    knotAgain.graph.node? 0 = some (.array 0) ∧ knotAgain.graph.node? 2 = some (.array 0) ∧
    knot.graph.node? 1 = some (.array 0) ∧ knotAgain.graph.node? 1 = some (.array 0) ∧
    (∀ t, .intern (.array 0) t ∈ knotAgain.calls → t = 1) ∧
    .addFresh (.array 0) 1 ∉ knotAgain.calls ∧ .reserve 1 ∉ knotAgain.calls := by
  have hcalls : knotAgain.calls = knot.calls ++ [.intern (.array 0) 1, .addFresh (.array 0) 2,
      .addTopLevel "Knot" 0, .addAttributes 2 (.ofDescription "alone")] := rfl
  have hshared : .intern (.array 0) 1 ∈ knot.calls := .tail _ (.head _)
  have hshared' : .intern (.array 0) 1 ∈ knotAgain.calls := hcalls ▸ List.mem_append_left _ hshared
  obtain ⟨hmade, hsize, -, hsame, hnode, hapart⟩ := built_knot.arena built_knotAgain hcalls
  obtain ⟨hbefore, hafter⟩ := hnode _ 1 (.inl hshared)
  obtain ⟨hfresh, hslot⟩ := hapart _ 1 hshared'
  exact ⟨built_knot, built_knotAgain, hmade, hsize, rfl, rfl, hbefore, hafter,
    fun t ht => (hsame _ _ t 1 ht hshared').2 rfl, hfresh _, hslot⟩

end JsonTypes.Recorded
