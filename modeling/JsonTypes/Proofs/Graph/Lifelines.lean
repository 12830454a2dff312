import JsonTypes.Proofs.Graph.History

/-!
# Types that live apart

Some types are shared: they were interned and nothing else, so they carry nothing. Others were
added fresh, or reserved as a slot and filled at most once, and what is attached to these was
attached afterwards (`Recorded.Lifeline`).

A graph is orderly (`Recorded.Orderly`) if all its types live so, and no node points at a type that
was added fresh. Every call of a sink keeps a graph orderly if it is made of the right type, and it
spares what was there before (`Recorded.Spares`), except for the one type that it is about
(`Recorded.Touches`).
-/

namespace JsonTypes.Recorded

variable {r r' r'' : Recorded} {t u : TypeRef}

/-- What may happen to a type. -/
inductive Lifeline (t : TypeRef) : List SinkCall → Prop
  | shared {calls : List SinkCall} : calls ≠ [] → (∀ call ∈ calls, ∃ n, call = .intern n t) →
      Lifeline t calls
  | own {n : Node} {as : List Attributes} : Lifeline t (.addFresh n t :: as.map (.addAttributes t))
  | slot : Lifeline t [.reserve t]
  | filled {n : Node} {as : List Attributes} :
      Lifeline t (.reserve t :: .fill t n :: as.map (.addAttributes t))

/-- The type was interned, and nothing else happened to it. -/
def Shared (r : Recorded) (t : TypeRef) : Prop :=
  r.history t ≠ [] ∧ ∀ call ∈ r.history t, ∃ n, call = .intern n t

/-- The type was added fresh. -/
def Own (r : Recorded) (t : TypeRef) : Prop := ∃ n, .addFresh n t ∈ r.history t

/-- The type is there for nodes to point at. -/
def Usable (r : Recorded) (t : TypeRef) : Prop := t < r.graph.size ∧ ¬r.Own t

/-- Every type has its lifeline, what is interned is shared, and nodes point at usable types. -/
structure Orderly (r : Recorded) : Prop where
  built : r.Built fun _ _ => True
  history_nil : ∀ t, r.graph.size ≤ t → r.history t = []
  namesOf_nil : ∀ t, r.graph.size ≤ t → r.namesOf t = []
  lifeline : ∀ t, t < r.graph.size → Lifeline t (r.history t)
  shared : ∀ n t, r.graph.interned.get? n = some t → r.Shared t
  children : ∀ t n, r.graph.node? t = some n → ∀ c ∈ n.children, r.Usable c

/-- What the calls in between leave alone: all that was there, but for what is interned again. -/
structure Spares (r r' : Recorded) : Prop where
  calls : ∃ calls, r'.calls = r.calls ++ calls
  size_le : r.graph.size ≤ r'.graph.size
  history : ∀ t, t < r.graph.size → r'.history t = r.history t ∨ r.Shared t ∧ r'.Shared t
  namesOf : ∀ t, r.Own t → r'.namesOf t = r.namesOf t

/-- Calls about one type, which was there before. -/
structure Touches (t : TypeRef) (r r' : Recorded) : Prop where
  calls : ∃ calls, r'.calls = r.calls ++ calls
  size_eq : r'.graph.size = r.graph.size
  interned : r'.graph.interned = r.graph.interned
  node : ∀ u, u ≠ t → r'.graph.node? u = r.graph.node? u
  history : ∀ u, u ≠ t → r'.history u = r.history u
  namesOf : ∀ u, u ≠ t → r'.namesOf u = r.namesOf u

theorem Shared.not_own (h : r.Shared t) : ¬r.Own t := by
  rintro ⟨n, hn⟩
  obtain ⟨m, hm⟩ := h.2 _ hn
  cases hm

theorem Shared.not_reserved (h : r.Shared t) : .reserve t ∉ r.history t := by
  intro hm
  obtain ⟨n, hn⟩ := h.2 _ hm
  cases hn

theorem Lifeline.not_own (h : Lifeline t (r.history t)) (hm : .reserve t ∈ r.history t) :
    ¬r.Own t := by
  rintro ⟨n, hn⟩
  generalize r.history t = calls at h hm hn
  cases h with
  | shared _ hi =>
    obtain ⟨m, hm⟩ := hi _ hm
    cases hm
  | own => simp at hm
  | slot => simp at hn
  | filled => simp at hn

theorem Shared.congr (h : r.Shared t) (he : r'.history t = r.history t) : r'.Shared t := by
  unfold Shared
  rw [he]
  exact h

theorem Own.congr (h : r.Own t) (he : r'.history t = r.history t) : r'.Own t := by
  unfold Own
  rw [he]
  exact h

theorem own_congr (he : r'.history t = r.history t) : r'.Own t ↔ r.Own t :=
  ⟨fun h => h.congr he.symm, fun h => h.congr he⟩

theorem Orderly.lt_size (h : r.Orderly) (ht : r.history t ≠ []) : t < r.graph.size := by
  by_contra hge
  exact ht (h.history_nil t (Nat.not_lt.1 hge))

theorem Orderly.lt_size_of_own (h : r.Orderly) (ht : r.Own t) : t < r.graph.size := by
  obtain ⟨n, hn⟩ := ht
  exact h.lt_size (List.ne_nil_of_mem hn)

theorem orderly_empty : Orderly ⟨.empty, []⟩ where
  built := .empty
  history_nil _ _ := rfl
  namesOf_nil _ _ := rfl
  lifeline _ ht := absurd ht (Nat.not_lt_zero _)
  shared _ _ h := by cases h
  children _ _ h := by cases h

/-! ## Sparing what was there -/

namespace Spares

theorem refl (r : Recorded) : r.Spares r :=
  ⟨⟨[], (List.append_nil _).symm⟩, Nat.le_refl _, fun _ _ => .inl rfl, fun _ _ => rfl⟩

theorem own_iff (h : r.Spares r') (ht : t < r.graph.size) : r'.Own t ↔ r.Own t := by
  rcases h.history t ht with he | ⟨hs, hs'⟩
  · exact own_congr he
  · exact iff_of_false hs'.not_own hs.not_own

theorem usable (h : r.Spares r') (ht : r.Usable t) : r'.Usable t :=
  ⟨Nat.lt_of_lt_of_le ht.1 h.size_le, mt (h.own_iff ht.1).1 ht.2⟩

/-- What is not shared keeps its history. -/
theorem history_eq (h : r.Spares r') (ht : t < r.graph.size) (hs : ¬r.Shared t) :
    r'.history t = r.history t :=
  (h.history t ht).resolve_right fun hc => hs hc.1

theorem trans (hr : r.Orderly) (h : r.Spares r') (h' : r'.Spares r'') : r.Spares r'' where
  calls := by
    obtain ⟨calls, hc⟩ := h.calls
    obtain ⟨calls', hc'⟩ := h'.calls
    exact ⟨calls ++ calls', by rw [hc', hc, List.append_assoc]⟩
  size_le := Nat.le_trans h.size_le h'.size_le
  history t ht := by
    rcases h.history t ht with he | ⟨hs, hs'⟩ <;>
      rcases h'.history t (Nat.lt_of_lt_of_le ht h.size_le) with he' | ⟨ht', ht''⟩
    · exact .inl (he'.trans he)
    · exact .inr ⟨ht'.congr he.symm, ht''⟩
    · exact .inr ⟨hs, hs'.congr he'⟩
    · exact .inr ⟨hs, ht''⟩
  namesOf t ho := by
    have ht : t < r.graph.size := hr.lt_size_of_own ho
    rw [h'.namesOf t ((h.own_iff ht).2 ho), h.namesOf t ho]

end Spares

namespace Touches

theorem refl (t : TypeRef) (r : Recorded) : Touches t r r :=
  ⟨⟨[], (List.append_nil _).symm⟩, rfl, rfl, fun _ _ => rfl, fun _ _ => rfl, fun _ _ => rfl⟩

theorem trans (h : Touches t r r') (h' : Touches t r' r'') : Touches t r r'' where
  calls := by
    obtain ⟨calls, hc⟩ := h.calls
    obtain ⟨calls', hc'⟩ := h'.calls
    exact ⟨calls ++ calls', by rw [hc', hc, List.append_assoc]⟩
  size_eq := h'.size_eq.trans h.size_eq
  interned := h'.interned.trans h.interned
  node u hu := (h'.node u hu).trans (h.node u hu)
  history u hu := (h'.history u hu).trans (h.history u hu)
  namesOf u hu := (h'.namesOf u hu).trans (h.namesOf u hu)

/-- Touching a type that came after a state spares that state. -/
theorem spares_of_le (h : Touches t r' r'') (hr : r.Spares r') (hs : r.Orderly)
    (ht : r.graph.size ≤ t) : r.Spares r'' where
  calls := by
    obtain ⟨calls, hc⟩ := hr.calls
    obtain ⟨calls', hc'⟩ := h.calls
    exact ⟨calls ++ calls', by rw [hc', hc, List.append_assoc]⟩
  size_le := h.size_eq ▸ hr.size_le
  history u hu := by
    have he := h.history u (Nat.ne_of_lt (Nat.lt_of_lt_of_le hu ht))
    rcases hr.history u hu with hu | ⟨hu, hu'⟩
    · exact .inl (he.trans hu)
    · exact .inr ⟨hu, hu'.congr he⟩
  namesOf u hu := by
    have hlt := hs.lt_size_of_own hu
    rw [h.namesOf u (Nat.ne_of_lt (Nat.lt_of_lt_of_le hlt ht)), hr.namesOf u hu]

/-- Calls about a type that keep it shared, or leave it as it was, spare everything. -/
theorem spares (h : Touches t r r') (ht : r'.history t = r.history t ∨ r.Shared t ∧ r'.Shared t)
    (hnames : r.Own t → r'.namesOf t = r.namesOf t) : r.Spares r' where
  calls := h.calls
  size_le := Nat.le_of_eq h.size_eq.symm
  history u _ := by
    by_cases hu : u = t
    · exact hu ▸ ht
    · exact .inl (h.history u hu)
  namesOf u ho := by
    by_cases hu : u = t
    · subst hu
      exact hnames ho
    · exact h.namesOf u hu

/-- A graph stays orderly if the type that is touched lives on as it may. -/
theorem orderly (h : Touches t r r') (hr : r.Orderly) (ht : t < r.graph.size)
    (hb : r'.Built fun _ _ => True) (hlife : Lifeline t (r'.history t))
    (hshared : r.Shared t → r'.Shared t) (hown : r'.Own t ↔ r.Own t)
    (hchildren : ∀ n, r'.graph.node? t = some n → ∀ c ∈ n.children, r.Usable c) : r'.Orderly := by
  have husable : ∀ c, r.Usable c → r'.Usable c := by
    intro c hc
    refine ⟨h.size_eq.symm ▸ hc.1, mt (fun ho => ?_) hc.2⟩
    by_cases hct : c = t
    · exact hct ▸ hown.1 (hct ▸ ho)
    · exact (own_congr (h.history c hct)).1 ho
  have hge : ∀ u, r'.graph.size ≤ u → r.graph.size ≤ u ∧ u ≠ t := fun u hu => by
    rw [h.size_eq] at hu
    exact ⟨hu, Nat.ne_of_gt (Nat.lt_of_lt_of_le ht hu)⟩
  refine ⟨hb, fun u hu => ?_, fun u hu => ?_, fun u hu => ?_, fun n u hu => ?_, fun u n hu c hc => ?_⟩
  · exact (h.history u (hge u hu).2).trans (hr.history_nil u (hge u hu).1)
  · exact (h.namesOf u (hge u hu).2).trans (hr.namesOf_nil u (hge u hu).1)
  · by_cases hut : u = t
    · exact hut ▸ hlife
    · exact h.history u hut ▸ hr.lifeline u (h.size_eq ▸ hu)
  · rw [h.interned] at hu
    by_cases hut : u = t
    · subst hut
      exact hshared (hr.shared n u hu)
    · exact (hr.shared n u hu).congr (h.history u hut)
  · by_cases hut : u = t
    · subst hut
      exact husable c (hchildren n hu c hc)
    · exact husable c (hr.children u n (h.node u hut ▸ hu) c hc)

end Touches

/-! ## Calls that make a type -/

/-- A type at the end of the arena. -/
structure Pushes (call : SinkCall) (r r' : Recorded) : Prop where
  orderly : r'.Orderly
  spares : r.Spares r'
  size_eq : r'.graph.size = r.graph.size + 1
  history : r'.history r.graph.size = [call]
  namesOf : r'.namesOf r.graph.size = []

theorem Pushes.usable {call : SinkCall} (h : Pushes call r r') (hc : ∀ n t, call ≠ .addFresh n t) :
    r'.Usable r.graph.size := by
  refine ⟨h.size_eq ▸ Nat.lt_succ_self _, ?_⟩
  rintro ⟨n, hn⟩
  rw [h.history] at hn
  exact hc _ _ (List.mem_singleton.1 hn).symm

theorem Orderly.push (h : r.Orderly) {n : Node} {call : SinkCall} (hb : r'.Built fun _ _ => True)
    (hnodes : r'.graph.nodes = r.graph.nodes.push n) (hcalls : r'.calls = r.calls ++ [call])
    (hsubject : subject? call = some r.graph.size) (hlife : Lifeline r.graph.size [call])
    (hinterned : ∀ m u, r'.graph.interned.get? m = some u →
      r.graph.interned.get? m = some u ∨ u = r.graph.size ∧ ∃ n, call = .intern n u)
    (hchildren : ∀ c ∈ n.children, r.Usable c) : Pushes call r r' := by
  have hsize : r'.graph.size = r.graph.size + 1 := by
    rw [Graph.size, hnodes, Array.size_push, Graph.size]
  have hhistory : ∀ u, u ≠ r.graph.size → r'.history u = r.history u := fun u hu => by
    rw [history_concat hcalls, hsubject, if_neg fun he => hu (Option.some.inj he).symm,
      List.append_nil]
  have hself : r'.history r.graph.size = [call] := by
    rw [history_concat hcalls, h.history_nil _ (Nat.le_refl _), if_pos hsubject, List.nil_append]
  have hnames : ∀ u, r'.namesOf u = r.namesOf u := fun u => by
    have htop : top? call = none := by cases call <;> first | rfl | cases hsubject
    rw [namesOf_append hcalls, List.filterMap_cons, htop]
    exact List.append_nil _
  have hspares : r.Spares r' := by
    refine ⟨⟨_, hcalls⟩, hsize ▸ Nat.le_succ _, fun u hu => ?_, fun u _ => hnames u⟩
    exact .inl (hhistory u (Nat.ne_of_lt hu))
  refine ⟨⟨hb, fun u hu => ?_, fun u hu => ?_, fun u hu => ?_, fun m u hu => ?_, fun u m hu c hc => ?_⟩,
    hspares, hsize, hself, (hnames _).trans (h.namesOf_nil _ (Nat.le_refl _))⟩
  · rw [hsize] at hu
    exact (hhistory u (Nat.ne_of_gt hu)).trans (h.history_nil u (Nat.le_of_succ_le hu))
  · rw [hsize] at hu
    exact (hnames u).trans (h.namesOf_nil u (Nat.le_of_succ_le hu))
  · by_cases hu' : u = r.graph.size
    · rw [hu', hself]
      exact hlife
    · rw [hhistory u hu']
      exact h.lifeline u (by omega)
  · rcases hinterned m u hu with hu | ⟨rfl, n, rfl⟩
    · have hshared := h.shared m u hu
      exact hshared.congr (hhistory u (Nat.ne_of_lt (h.lt_size hshared.1)))
    · rw [Shared, hself]
      exact ⟨List.cons_ne_nil _ _, fun call hc => ⟨n, List.mem_singleton.1 hc⟩⟩
  · rw [Graph.node?, hnodes, Array.getElem?_push] at hu
    split_ifs at hu
    · cases hu
      exact hspares.usable (hchildren c hc)
    · exact hspares.usable (h.children u m hu c hc)

theorem Orderly.addFresh (h : r.Orderly) {n : Node} (hn : ∀ c ∈ n.children, r.Usable c) :
    Pushes (.addFresh n r.graph.size) r (Sink.addFresh n r).2 :=
  h.push (h.built.addFresh n trivial) rfl rfl rfl (@Lifeline.own _ n []) (fun _ _ hu => .inl hu) hn

theorem Orderly.reserve (h : r.Orderly) :
    Pushes (.reserve r.graph.size) r ((Sink.reserve : StateM _ _) r).2 :=
  h.push h.built.reserve rfl rfl rfl .slot (fun _ _ hu => .inl hu) (n := .any) nofun

/-- A type that is interned again is still shared. -/
theorem Orderly.intern (h : r.Orderly) {n : Node} (hn : ∀ c ∈ n.children, r.Usable c) :
    (Sink.intern n r).2.Orderly ∧ r.Spares (Sink.intern n r).2 ∧
      (Sink.intern n r).2.Usable (Sink.intern n r).1 ∧
      (Sink.intern n r).2.Shared (Sink.intern n r).1 := by
  have hb : (Sink.intern n r).2.Built fun _ _ => True := h.built.intern n trivial
  rcases hi : r.graph.interned.get? n with _ | t
  · rw [intern_of_none hi] at hb ⊢
    have hlife : Lifeline r.graph.size [.intern n r.graph.size] :=
      .shared (List.cons_ne_nil _ _) fun call hc => ⟨n, List.mem_singleton.1 hc⟩
    have hpush := h.push hb rfl rfl rfl hlife (fun m u hu => ?_) hn
    · refine ⟨hpush.orderly, hpush.spares, hpush.usable nofun, ?_⟩
      rw [Shared, hpush.history]
      exact ⟨List.cons_ne_nil _ _, fun call hc => ⟨n, List.mem_singleton.1 hc⟩⟩
    · rw [Entries.get?_append_single] at hu
      rcases hm : r.graph.interned.get? m with _ | t
      · rw [hm, Option.none_or] at hu
        split_ifs at hu
        cases hu
        exact .inr ⟨rfl, n, rfl⟩
      · rw [hm, Option.some_or] at hu
        exact .inl hu
  · rw [intern_of_get? hi] at hb ⊢
    have hshared := h.shared n t hi
    have hlt := h.lt_size hshared.1
    have hcalls :
        (⟨r.graph, r.calls ++ [.intern n t]⟩ : Recorded).calls = r.calls ++ [.intern n t] :=
      rfl
    have hhistory : ∀ u, (⟨r.graph, r.calls ++ [.intern n t]⟩ : Recorded).history u =
        r.history u ++ if t = u then [.intern n t] else [] := fun u => by
      simpa [subject?] using history_concat hcalls u
    have hshared' : (⟨r.graph, r.calls ++ [.intern n t]⟩ : Recorded).Shared t := by
      rw [Shared, hhistory, if_pos rfl]
      refine ⟨List.append_ne_nil_of_left_ne_nil hshared.1 _, fun call hc => ?_⟩
      rcases List.mem_append.1 hc with hc | hc
      · exact hshared.2 call hc
      · exact ⟨n, List.mem_singleton.1 hc⟩
    have htouches : Touches t r ⟨r.graph, r.calls ++ [.intern n t]⟩ := by
      refine ⟨⟨_, rfl⟩, rfl, rfl, fun _ _ => rfl, fun u hu => ?_, fun u _ => ?_⟩
      · rw [hhistory, if_neg (Ne.symm hu), List.append_nil]
      · exact (namesOf_append (r := r) rfl u).trans (List.append_nil _)
    refine ⟨htouches.orderly h hlt hb (.shared hshared'.1 hshared'.2) (fun _ => hshared')
      (iff_of_false hshared'.not_own hshared.not_own) (fun m hm => ?_),
      htouches.spares (.inr ⟨hshared, hshared'⟩) fun ho => absurd ho hshared.not_own,
      ⟨hlt, hshared'.not_own⟩, hshared'⟩
    exact h.children t m hm

/-! ## Calls about a type -/

theorem touches_call {call : SinkCall} (hcalls : r'.calls = r.calls ++ [call])
    (hsize : r'.graph.size = r.graph.size) (hinterned : r'.graph.interned = r.graph.interned)
    (hnode : ∀ u, u ≠ t → r'.graph.node? u = r.graph.node? u)
    (hsubject : ∀ u, subject? call = some u → u = t) (htop : ∀ e, top? call = some e → e.2 = t) :
    Touches t r r' := by
  refine ⟨⟨_, hcalls⟩, hsize, hinterned, hnode, fun u hu => ?_, fun u hu => ?_⟩
  · rw [history_concat hcalls, if_neg fun he => hu (hsubject u he), List.append_nil]
  · rw [namesOf_append hcalls]
    rcases he : top? call with _ | e
    · simp [he]
    · simp [he, htop e he, Ne.symm hu]

theorem touches_fill (t : TypeRef) (n : Node) (r : Recorded) :
    Touches t r (Sink.fill t n r).2 ∧
      (Sink.fill t n r).2.history t = r.history t ++ [.fill t n] ∧
      ∀ m, (Sink.fill t n r).2.graph.node? t = some m → m = n := by
  refine ⟨touches_call rfl (Graph.size_fill r.graph t n) rfl (fun u hu => ?_)
    (fun u hu => (Option.some.inj hu).symm) nofun, ?_, fun m hm => ?_⟩
  · exact (Graph.node?_fill r.graph t n u).trans (if_neg fun hc => hu hc.1)
  · exact history_of_subject rfl rfl
  · change (Graph.fill t n r.graph).2.node? t = some m at hm
    have hlt := Graph.lt_size_of_node? hm
    rw [Graph.size_fill] at hlt
    rw [Graph.node?_fill, if_pos ⟨rfl, hlt⟩] at hm
    exact (Option.some.inj hm).symm

theorem touches_addAttributes (t : TypeRef) (a : Attributes) (r : Recorded) :
    Touches t r (Sink.addAttributes t a r).2 ∧
      (Sink.addAttributes t a r).2.history t = r.history t ++ [.addAttributes t a] ∧
      (Sink.addAttributes t a r).2.namesOf t = r.namesOf t ∧
      (Sink.addAttributes t a r).2.graph.nodes = r.graph.nodes := by
  obtain ⟨hnodes, hinterned, -⟩ := Graph.attributes_unread a t r.graph
  refine ⟨touches_call rfl (congrArg Array.size hnodes) hinterned (fun u _ => ?_)
    (fun u hu => (Option.some.inj hu).symm) nofun, ?_, ?_, hnodes⟩
  · exact congrArg (·[u]?) hnodes
  · exact history_of_subject rfl rfl
  · exact (namesOf_append rfl t).trans (List.append_nil _)

theorem touches_addTopLevel (name : String) (t : TypeRef) (r : Recorded) :
    Touches t r (Sink.addTopLevel name t r).2 ∧
      (Sink.addTopLevel name t r).2.history t = r.history t ∧
      (Sink.addTopLevel name t r).2.namesOf t = r.namesOf t ++ [name] := by
  refine ⟨touches_call rfl rfl rfl (fun _ _ => rfl) nofun fun e he => ?_, ?_, ?_⟩
  · cases he
    rfl
  · exact (history_concat rfl t).trans (List.append_nil _)
  · refine (namesOf_append rfl t).trans ?_
    simp [top?]

/-! ## What types carry -/

/-- A type carries what was attached to it at the end of its history. -/
theorem Orderly.carries (h : r.Orderly) (calls : List SinkCall) (as : List Attributes)
    (ht : r.history t = calls ++ as.map (.addAttributes t))
    (hcalls : ∀ call ∈ calls, attachment? call = none) :
    r.graph.attributesOf? t = Attributes.carried as := by
  have hnone : calls.filterMap attachment? = [] := List.filterMap_eq_nil_iff.2 hcalls
  have has : (as.map (SinkCall.addAttributes t)).filterMap attachment? = as := by
    rw [List.filterMap_map]
    exact List.filterMap_some
  rw [h.built.carried, attached, ht, List.filterMap_append, hnone, has, List.nil_append]

theorem Shared.carries (ht : r.Shared t) (h : r.Orderly) : r.graph.attributesOf? t = none := by
  refine h.carries (r.history t) [] (List.append_nil _).symm fun call hc => ?_
  obtain ⟨n, rfl⟩ := ht.2 call hc
  rfl

/-- Attributes are attached to types that were added fresh or reserved, and never interned. -/
theorem Orderly.not_shared_of_attributes (h : r.Orderly) {a : Attributes}
    (ha : .addAttributes t a ∈ r.calls) :
    ((∃ n, .addFresh n t ∈ r.history t) ∨ .reserve t ∈ r.history t) ∧
      ∀ n, .intern n t ∉ r.calls := by
  have hmem : ∀ {call}, call ∈ r.calls → subject? call = some t → call ∈ r.history t :=
    fun hc hs => List.mem_filter.2 ⟨hc, decide_eq_true hs⟩
  have hattached := hmem ha rfl
  have hinterned : ∀ n, .intern n t ∈ r.calls → .intern n t ∈ r.history t := fun n hn => hmem hn rfl
  have hlife := h.lifeline t (h.lt_size (List.ne_nil_of_mem hattached))
  generalize r.history t = calls at hlife hattached hinterned
  cases hlife with
  | shared _ hi =>
    obtain ⟨n, hn⟩ := hi _ hattached
    cases hn
  | own => exact ⟨.inl ⟨_, List.mem_cons_self⟩, fun n hn => by simpa using hinterned n hn⟩
  | slot => simp at hattached
  | filled => exact ⟨.inr List.mem_cons_self, fun n hn => by simpa using hinterned n hn⟩

end JsonTypes.Recorded
