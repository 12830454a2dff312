import JsonTypes.Proofs.Graph.Recorded
import JsonTypes.Proofs.Schema.Conversion

/-!
# Runs that are recorded

A run does the same to a recorded graph as to the graph alone (`convertTopLevels_records`), so the
calls that it makes can be told.

However a conversion ends, it has filled only slots that it reserved itself, none of them twice
(`Recorded.Adds`). If it succeeds, it has filled the slots of all locations that it converted
(`Tracks`).
-/

namespace JsonTypes

namespace Recorded

/-- The later record adds slots, fills of some of them, and the names of top levels. -/
structure Adds (names : List String) (r r' : Recorded) : Prop where
  built : r.Built (fun _ _ => True) → r'.Built fun _ _ => True
  size_le : r.graph.size ≤ r'.graph.size
  named : r'.named = r.named ++ names
  slots : ∃ slots fills, r'.reserved = r.reserved ++ slots ∧ r'.filled = r.filled ++ fills ∧
    fills.Nodup ∧ (∀ t ∈ fills, t ∈ slots) ∧
    ∀ t ∈ slots, r.graph.size ≤ t ∧ t < r'.graph.size

namespace Adds

variable {names names' : List String} {r r' r'' : Recorded}

theorem refl (r : Recorded) : Adds [] r r :=
  ⟨id, Nat.le_refl _, (List.append_nil _).symm,
    [], [], (List.append_nil _).symm, (List.append_nil _).symm, .nil, nofun, nofun⟩

theorem trans (h : Adds names r r') (h' : Adds names' r' r'') : Adds (names ++ names') r r'' := by
  obtain ⟨slots, fills, hr, hf, hnodup, hsub, hrange⟩ := h.slots
  obtain ⟨slots', fills', hr', hf', hnodup', hsub', hrange'⟩ := h'.slots
  refine ⟨h'.built ∘ h.built, Nat.le_trans h.size_le h'.size_le, ?_, slots ++ slots',
    fills ++ fills', ?_, ?_, ?_, ?_, ?_⟩
  · rw [h'.named, h.named, List.append_assoc]
  · rw [hr', hr, List.append_assoc]
  · rw [hf', hf, List.append_assoc]
  · refine List.nodup_append.2 ⟨hnodup, hnodup', fun t ht t' ht' => ?_⟩
    exact Nat.ne_of_lt (Nat.lt_of_lt_of_le (hrange t (hsub t ht)).2 (hrange' t' (hsub' t' ht')).1)
  · intro t ht
    rcases List.mem_append.1 ht with ht | ht
    · exact List.mem_append_left _ (hsub t ht)
    · exact List.mem_append_right _ (hsub' t ht)
  · intro t ht
    rcases List.mem_append.1 ht with ht | ht
    · exact ⟨(hrange t ht).1, Nat.lt_of_lt_of_le (hrange t ht).2 h'.size_le⟩
    · exact ⟨Nat.le_trans h.size_le (hrange' t ht).1, (hrange' t ht).2⟩

theorem mem_filled (h : Adds names r r') {t : TypeRef} (ht : t ∈ r.filled) : t ∈ r'.filled := by
  obtain ⟨slots, fills, -, hf, -⟩ := h.slots
  rw [hf]
  exact List.mem_append_left _ ht

/-- What was in the arena before is a slot only if it was one. -/
theorem mem_reserved (h : Adds names r r') {t : TypeRef} (ht : t ∈ r'.reserved)
    (hlt : t < r.graph.size) : t ∈ r.reserved := by
  obtain ⟨slots, fills, hr, -, -, -, hrange⟩ := h.slots
  rw [hr] at ht
  rcases List.mem_append.1 ht with ht | ht
  · exact ht
  · exact absurd (Nat.lt_of_lt_of_le hlt (hrange t ht).1) (Nat.lt_irrefl _)

end Adds

section Calls

variable (r : Recorded)

/-- A call that neither reserves nor fills a slot. -/
theorem adds_record {α : Type} {action : Build α} {call : α → SinkCall}
    (hb : r.Built (fun _ _ => True) → (record action call r).2.Built fun _ _ => True)
    (hsize : r.graph.size ≤ (action r.graph).2.size)
    (hslot : slot? (call (action r.graph).1) = none)
    (htarget : target? (call (action r.graph).1) = none) :
    Adds (name? (call (action r.graph).1)).toList r (record action call r).2 := by
  refine ⟨hb, hsize, named_record r action call, [], [], ?_, ?_, .nil, nofun, nofun⟩
  · rw [reserved_record, hslot]
    rfl
  · rw [filled_record, htarget]
    rfl

theorem adds_intern (n : Node) : Adds [] r (Sink.intern n r).2 := by
  have hextends : r.graph.Extends (Graph.intern n r.graph).2 := Graph.intern_extends n r.graph
  exact adds_record r (fun hb => hb.intern n trivial) hextends.size_le rfl rfl

theorem adds_addTopLevel (name : String) (t : TypeRef) :
    Adds [name] r (Sink.addTopLevel name t r).2 :=
  adds_record r (fun hb => hb.addTopLevel name t) (Nat.le_refl _) rfl rfl

theorem adds_addAttributes (t : TypeRef) (a : Attributes) :
    Adds [] r (Sink.addAttributes t a r).2 := by
  refine adds_record r (fun hb => hb.addAttributes t a) (Nat.le_of_eq ?_) rfl rfl
  exact congrArg Array.size (Graph.attributes_unread a t r.graph).1.symm

theorem size_reserve : ((Sink.reserve : StateM _ _) r).2.graph.size = r.graph.size + 1 :=
  Array.size_push _

theorem adds_reserve : Adds [] r ((Sink.reserve : StateM _ _) r).2 := by
  refine ⟨.reserve, Nat.le_of_lt (size_reserve r ▸ Nat.lt_succ_self _), named_record r _ _,
    [r.graph.size], [], reserved_reserve r, filled_record r _ _, .nil, nofun, fun t ht => ?_⟩
  cases List.mem_singleton.1 ht
  exact ⟨Nat.le_refl _, size_reserve r ▸ Nat.lt_succ_self _⟩

/-- A slot is reserved, and filled after what was added in between. -/
theorem Adds.enclose {r r' : Recorded} (h : Adds [] ((Sink.reserve : StateM _ _) r).2 r')
    (n : Node) : Adds [] r (Sink.fill r.graph.size n r').2 := by
  obtain ⟨slots, fills, hr, hf, hnodup, hsub, hrange⟩ := h.slots
  have hlt : r.graph.size < ((Sink.reserve : StateM _ _) r).2.graph.size :=
    size_reserve r ▸ Nat.lt_succ_self _
  have hlt' : r.graph.size < r'.graph.size := Nat.lt_of_lt_of_le hlt h.size_le
  have hsize : (Sink.fill r.graph.size n r').2.graph.size = r'.graph.size :=
    Graph.size_fill r'.graph r.graph.size n
  have hreserved : r'.reserved = r.reserved ++ r.graph.size :: slots := by
    rw [hr, reserved_reserve, List.append_assoc]
    rfl
  refine ⟨fun hb => ?_, hsize ▸ Nat.le_of_lt hlt', ?_, r.graph.size :: slots,
    fills ++ [r.graph.size], ?_, ?_, ?_, ?_, ?_⟩
  · refine (h.built hb.reserve).fill r.graph.size n ?_ trivial
    rw [hreserved]
    exact List.mem_append_right _ List.mem_cons_self
  · exact (named_record r' _ _).trans ((List.append_nil _).trans (h.named.trans
      ((List.append_nil _).trans (named_record r _ _))))
  · rw [reserved_fill, hreserved]
  · have hopen : ((Sink.reserve : StateM _ _) r).2.filled = r.filled :=
      (filled_record r _ _).trans (List.append_nil _)
    rw [filled_fill, hf, hopen, List.append_assoc]
  · refine List.nodup_append.2 ⟨hnodup, List.pairwise_singleton _ _, fun t ht t' ht' => ?_⟩
    cases List.mem_singleton.1 ht'
    exact Nat.ne_of_gt (Nat.lt_of_lt_of_le hlt (hrange t (hsub t ht)).1)
  · intro t ht
    rcases List.mem_append.1 ht with ht | ht
    · exact List.mem_cons_of_mem _ (hsub t ht)
    · exact List.mem_singleton.1 ht ▸ List.mem_cons_self
  · intro t ht
    rcases List.mem_cons.1 ht with rfl | ht
    · exact ⟨Nat.le_refl _, hsize ▸ hlt'⟩
    · exact ⟨Nat.le_of_lt (Nat.lt_of_lt_of_le hlt (hrange t ht).1), hsize ▸ (hrange t ht).2⟩

end Calls

end Recorded

namespace Materialize

open Recorded

/-! ## Calls of a run -/

/-- Every location that was converted in between has its slot filled. -/
def Fulfils (s s' : State Recorded) : Prop :=
  ∀ l t, s'.converted.get? l = some t → s.converted.get? l = some t ∨ t ∈ s'.sink.filled

/-- However the action ends, it only adds; if it succeeds, it fills the slots of all locations
that it converted. -/
def Tracks {α : Type} (x : Convert Recorded α) : Prop :=
  ∀ s, Adds [] s.sink (x s).2.sink ∧ ∀ a, (x s).1 = .ok a → Fulfils s (x s).2

theorem Tracks.bind {α β : Type} {x : Convert Recorded α} {f : α → Convert Recorded β}
    (hx : Tracks x) (hf : ∀ a, Tracks (f a)) : Tracks (x >>= f) := by
  intro s
  obtain ⟨hadds, hok⟩ := hx s
  rcases h : x s with ⟨e | a, s₁⟩ <;> rw [h] at hadds hok
  · rw [Action.bind_error h]
    exact ⟨hadds, nofun⟩
  · obtain ⟨hadds', hok'⟩ := hf a s₁
    rw [Action.bind_ok h]
    refine ⟨hadds.trans hadds', fun b hb l t ht => ?_⟩
    rcases hok' b hb l t ht with ht | ht
    · exact (hok a rfl l t ht).imp_right hadds'.mem_filled
    · exact .inr ht

theorem tracks_of_converted {α : Type} {x : Convert Recorded α}
    (hx : ∀ s, Adds [] s.sink (x s).2.sink) (hc : ∀ s, (x s).2.converted = s.converted) :
    Tracks x :=
  fun s => ⟨hx s, fun _ _ l t ht => .inl (by rw [← hc s]; exact ht)⟩

theorem pure_tracks {α : Type} (x : Except SchemaError α) :
    Tracks (fun s => (x, s) : Convert Recorded α) :=
  tracks_of_converted (fun s => .refl s.sink) fun _ => rfl

theorem resolving_tracks {α : Type} (action : Resolve α) :
    Tracks (resolving action : Convert Recorded α) :=
  tracks_of_converted (fun s => .refl s.sink) fun _ => rfl

theorem run_tracks {convert : Location → Convert Recorded TypeRef} (hc : ∀ l, Tracks (convert l))
    (steps : Nat) {α : Type} (p : Plan α) : Tracks (p.run convert steps) := by
  induction p with
  | done a => exact pure_tracks (.ok a)
  | fail e => exact pure_tracks (.error e)
  | typeAt l next ih => exact (hc l).bind ih
  | schemaBehind l next ih => exact (resolving_tracks _).bind ih
  | share n next ih =>
    have hintern : Tracks (building (Sink.intern n) : Convert Recorded TypeRef) :=
      tracks_of_converted (fun s => adds_intern s.sink n) fun _ => rfl
    exact hintern.bind ih

theorem adds_produceAll (slot : TypeRef) (schema : List (String × Json)) (l : Location) :
    ∀ (producers : List AttributeProducer) (r : Recorded),
      Adds [] r (produceAll producers slot schema l r).2
  | [], r => .refl r
  | producer :: rest, r => by
    rcases hp : producer schema l with _ | a <;> simp only [produceAll, hp]
    · exact adds_produceAll slot schema l rest r
    · exact (adds_addAttributes r slot a).trans (adds_produceAll slot schema l rest _)

theorem adds_closeSlot (producers : List AttributeProducer) (slot : TypeRef) (schema : Json)
    (l : Location) (n : Node) (r : Recorded) :
    Adds [] (Sink.fill slot n r).2 (closeSlot producers slot schema l n r).2 := by
  cases schema with
  | object members => exact adds_produceAll slot members l producers _
  | _ => exact .refl _

theorem convert_tracks (producers : List AttributeProducer) : ∀ (steps : Nat) (l : Location),
    Tracks (convert producers steps l : Convert Recorded TypeRef)
  | 0, _ => pure_tracks (.error .outOfSteps)
  | steps + 1, l => by
    intro s
    have hrun := fun (p : Plan Node) => run_tracks (convert_tracks producers steps) (steps + 1) p
    have hc := convert_cases producers steps l s
    generalize (convert producers (steps + 1) l s).1 = outcome at hc ⊢
    generalize (convert producers (steps + 1) l s).2 = s' at hc ⊢
    cases hc with
    | noTarget => exact ⟨.refl _, nofun⟩
    | known => exact ⟨.refl _, fun _ _ l t ht => .inl ht⟩
    | noSchema => exact ⟨adds_reserve s.sink, nofun⟩
    | @noNode l' r schema r' e s' hf hnew hs hp =>
      obtain ⟨hadds, -⟩ := hrun (planFor schema l') (opened l' { s with resolver := r' })
      rw [hp] at hadds
      exact ⟨(adds_reserve s.sink).trans hadds, nofun⟩
    | @filled l' r schema r' n s' hf hnew hs hp =>
      obtain ⟨hadds, hok⟩ := hrun (planFor schema l') (opened l' { s with resolver := r' })
      rw [hp] at hadds hok
      have hclose := adds_closeSlot producers s.sink.graph.size schema l' n s'.sink
      refine ⟨(hadds.enclose n).trans hclose, fun _ _ l₁ t ht => ?_⟩
      have hfill : ∀ x ∈ s'.sink.filled, x ∈ (Sink.fill s.sink.graph.size n s'.sink).2.filled :=
        fun x hx => filled_fill s'.sink n s.sink.graph.size ▸ List.mem_append_left _ hx
      rcases hok n rfl l₁ t ht with ht | ht
      · rw [opened, Entries.get?_put] at ht
        split_ifs at ht
        · cases ht
          refine .inr (hclose.mem_filled ?_)
          exact filled_fill s'.sink n s.sink.graph.size ▸ List.mem_append_right _ List.mem_cons_self
        · exact .inl ht
      · exact .inr (hclose.mem_filled (hfill t ht))

/-! ## The graph alone -/

/-- The state of a run without the record. -/
def State.plain (s : State Recorded) : State Graph := ⟨s.resolver, s.sink.graph, s.converted⟩

/-- The first action does to the graph what the second one does to the graph alone. -/
def Records {α : Type} (x : Convert Recorded α) (y : Convert Graph α) : Prop :=
  ∀ s, y s.plain = ((x s).1, (x s).2.plain)

theorem Records.bind {α β : Type} {x : Convert Recorded α} {y : Convert Graph α}
    {f : α → Convert Recorded β} {g : α → Convert Graph β} (h : Records x y)
    (hf : ∀ a, Records (f a) (g a)) : Records (x >>= f) (y >>= g) := by
  intro s
  have hy := h s
  rcases hx : x s with ⟨e | a, s₁⟩ <;> rw [hx] at hy
  · rw [Action.bind_error hx, Action.bind_error hy]
  · rw [Action.bind_ok hx, Action.bind_ok hy]
    exact hf a s₁

theorem records_get {α : Type} {f : State Recorded → Convert Recorded α}
    {g : State Graph → Convert Graph α} (h : ∀ s, Records (f s) (g s.plain)) :
    Records (get >>= f) (get >>= g) :=
  fun s => h s s

theorem resolving_records {α : Type} (action : Resolve α) :
    Records (resolving action) (resolving action) := fun _ => rfl

theorem run_records {convert : Location → Convert Recorded TypeRef}
    {convert' : Location → Convert Graph TypeRef} (hc : ∀ l, Records (convert l) (convert' l))
    (steps : Nat) {α : Type} (p : Plan α) :
    Records (p.run convert steps) (p.run convert' steps) := by
  induction p with
  | done a => exact fun _ => rfl
  | fail e => exact fun _ => rfl
  | typeAt l next ih => exact (hc l).bind ih
  | schemaBehind l next ih => exact (resolving_records _).bind ih
  | share n next ih =>
    have hintern : Records (building (Sink.intern n)) (building (Sink.intern n)) := fun _ => rfl
    exact hintern.bind ih

theorem produceAll_graph (slot : TypeRef) (schema : List (String × Json)) (l : Location) :
    ∀ (producers : List AttributeProducer) (r : Recorded),
      (produceAll producers slot schema l r.graph).2 =
        (produceAll producers slot schema l r).2.graph
  | [], _ => rfl
  | producer :: rest, r => by
    rcases hp : producer schema l with _ | a <;> simp only [produceAll, hp]
    · exact produceAll_graph slot schema l rest r
    · exact produceAll_graph slot schema l rest (Sink.addAttributes slot a r).2

theorem closeSlot_records (producers : List AttributeProducer) (slot : TypeRef) (schema : Json)
    (l : Location) (n : Node) : Records (building (closeSlot producers slot schema l n))
      (building (closeSlot producers slot schema l n)) := by
  intro s
  have hgraph : (closeSlot producers slot schema l n s.sink.graph).2 =
      (closeSlot producers slot schema l n s.sink).2.graph := by
    cases schema with
    | object members => exact produceAll_graph slot members l producers (Sink.fill slot n s.sink).2
    | _ => rfl
  exact Prod.ext rfl (congrArg (State.mk s.resolver · s.converted) hgraph)

theorem convert_records (producers : List AttributeProducer) : ∀ (steps : Nat) (l : Location),
    Records (convert producers steps l) (convert producers steps l)
  | 0, _ => fun _ => rfl
  | steps + 1, l => by
    refine (resolving_records _).bind fun l' => records_get fun s => ?_
    rw [show s.plain.converted = s.converted from rfl]
    rcases s.converted.get? l' with _ | t <;> simp only
    · have hopen : Records (openSlot l') (openSlot l') := fun _ => rfl
      refine hopen.bind fun slot => (resolving_records _).bind fun schema => ?_
      refine (run_records (convert_records producers steps) _ _).bind fun n => ?_
      exact (closeSlot_records producers slot schema l' n).bind fun _ _ => rfl
    · exact fun _ => rfl

theorem convertTopLevels_records (producers : List AttributeProducer) (steps : Nat) :
    ∀ topLevels : List (String × Location),
      Records (convertTopLevels producers steps topLevels)
        (convertTopLevels producers steps topLevels)
  | [] => fun _ => rfl
  | (name, l) :: rest => by
    refine (convert_records producers steps l).bind fun t => ?_
    have hadd : Records (building (Sink.addTopLevel name t))
        (building (Sink.addTopLevel name t)) := fun _ => rfl
    exact hadd.bind fun _ => convertTopLevels_records producers steps rest

end Materialize

end JsonTypes
