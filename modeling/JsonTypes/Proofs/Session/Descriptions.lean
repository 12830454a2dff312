import JsonTypes.Proofs.Graph.Lifelines
import JsonTypes.Proofs.Session.SampleTypes

/-!
# What is attached to the top levels of samples

The top level of a set of samples is shared or fresh. If the set has a description it is fresh, and
the description is all that is attached to it (`SampleSets.Settled`). No later call changes that,
as long as calls spare what was there before (`SampleSets.Settled.spared`).
-/

namespace JsonTypes.SampleSets

open Recorded Shape

variable {c : InferenceConfig} {r r' : Recorded} {name : String} {set : SampleSet} {t : TypeRef}

/-- The attributes that a set gives to its top level. -/
def attributes (set : SampleSet) : List Attributes := (set.description.map .ofDescription).toList

theorem description_of_not_fresh (h : isFresh c set = false) : set.description = none := by
  unfold isFresh at h
  rcases hd : set.description with _ | description
  · rfl
  · rw [hd] at h
    cases h

/-- What became of the top level of a set. -/
structure Settled (c : InferenceConfig) (r : Recorded) (entry : String × SampleSet) (t : TypeRef) :
    Prop where
  fresh : isFresh c entry.2 = true → r.namesOf t = [entry.1] ∧
    ∃ n, r.history t = .addFresh n t :: (attributes entry.2).map (.addAttributes t)
  shared : isFresh c entry.2 = false → r.Shared t

theorem Settled.spared {entry : String × SampleSet} (h : Settled c r entry t) (hr : r.Orderly)
    (hspares : r.Spares r') : Settled c r' entry t where
  fresh hfresh := by
    obtain ⟨hnames, n, hn⟩ := h.fresh hfresh
    have hown : r.Own t := ⟨n, hn ▸ List.mem_cons_self⟩
    refine ⟨(hspares.namesOf t hown).trans hnames, n, ?_⟩
    exact (hspares.history_eq (hr.lt_size_of_own hown) fun hs => hs.not_own hown).trans hn
  shared hfresh := by
    have hs := h.shared hfresh
    rcases hspares.history t (hr.lt_size hs.1) with he | ⟨-, hs'⟩
    · exact hs.congr he
    · exact hs'

theorem Settled.carries {entry : String × SampleSet} (h : Settled c r entry t) (hr : r.Orderly) :
    r.graph.attributesOf? t = entry.2.description.map Attributes.ofDescription := by
  rcases hfresh : isFresh c entry.2 with _ | _
  · rw [(h.shared hfresh).carries hr]
    rw [description_of_not_fresh hfresh]
    rfl
  · obtain ⟨-, n, hn⟩ := h.fresh hfresh
    rw [hr.carries [.addFresh n t] _ hn fun call hc => List.mem_singleton.1 hc ▸ rfl]
    rcases hd : entry.2.description with _ | description
    · simp only [attributes, hd]
      rfl
    · simp only [attributes, hd]
      rfl

/-- A top level that is fresh is no node's child. -/
theorem Settled.not_child {entry : String × SampleSet} (h : Settled c r entry t) (hr : r.Orderly)
    (hfresh : isFresh c entry.2 = true) (u : TypeRef) (n : Node) (hn : r.graph.node? u = some n) :
    t ∉ n.children := by
  intro ht
  obtain ⟨-, m, hm⟩ := h.fresh hfresh
  exact (hr.children u n hn t ht).2 ⟨m, hm ▸ List.mem_cons_self⟩

/-! ## Registering a type -/

theorem register_touches (name : String) (set : SampleSet) (t : TypeRef) (r : Recorded) :
    Touches t r (register name set t r).2 ∧
      (register name set t r).2.history t =
        r.history t ++ (attributes set).map (.addAttributes t) ∧
      (register name set t r).2.namesOf t = r.namesOf t ++ [name] ∧
      (register name set t r).2.tops = r.tops ++ [(name, t)] ∧
      (register name set t r).2.graph.nodes = r.graph.nodes ∧
      (r.Built (fun _ _ => True) → (register name set t r).2.Built fun _ _ => True) := by
  obtain ⟨htouches, hhistory, hnames⟩ := touches_addTopLevel name t r
  have hcalls : (Sink.addTopLevel name t r).2.calls = r.calls ++ [.addTopLevel name t] := rfl
  have htops : (Sink.addTopLevel name t r).2.tops = r.tops ++ [(name, t)] := tops_append hcalls
  unfold register attributes
  rcases set.description with _ | description
  · exact ⟨htouches, hhistory.trans (List.append_nil _).symm, hnames, htops, rfl,
      fun hb => hb.addTopLevel name t⟩
  · obtain ⟨htouches', hhistory', hnames', hnodes⟩ :=
      touches_addAttributes t (.ofDescription description) (Sink.addTopLevel name t r).2
    refine ⟨htouches.trans htouches', hhistory'.trans (hhistory ▸ rfl), hnames'.trans hnames, ?_,
      hnodes, fun hb => (hb.addTopLevel name t).addAttributes t _⟩
    exact (tops_append rfl).trans ((List.append_nil _).trans htops)

/-! ## Single sets -/

/-- What adding the type of a set leaves. -/
structure Settles (c : InferenceConfig) (name : String) (set : SampleSet) (r : Recorded)
    (t : TypeRef) (r' : Recorded) : Prop where
  orderly : r'.Orderly
  spares : r.Spares r'
  tops : r'.tops = r.tops ++ [(name, t)]
  settled : Settled c r' (name, set) t
  size_le : isFresh c set = true → r.graph.size ≤ t

/-- Registering a type that was just emitted. -/
theorem register_settles (name : String) {t : TypeRef} {r₁ : Recorded} (hr : r.Orderly)
    (h : Emits (isFresh c set) r t r₁) : Settles c name set r t (register name set t r₁).2 := by
  obtain ⟨htouches, hhistory, hnames, htops, hnodes, hbuilt⟩ := register_touches name set t r₁
  have hnode : ∀ n, (register name set t r₁).2.graph.node? t = some n →
      ∀ c ∈ n.children, r₁.Usable c := fun n hn =>
    h.orderly.children t n (by rw [Graph.node?, ← hnodes]; exact hn)
  rcases hfresh : isFresh c set with _ | _
  · have hs := h.shared hfresh
    have hlt := h.orderly.lt_size hs.1
    have hsame : (register name set t r₁).2.history t = r₁.history t := by
      rw [hhistory, attributes, description_of_not_fresh hfresh]
      exact List.append_nil _
    have hs' : (register name set t r₁).2.Shared t := hs.congr hsame
    refine ⟨htouches.orderly h.orderly hlt (hbuilt h.orderly.built) (hsame ▸ h.orderly.lifeline t hlt)
      (fun _ => hs') (own_congr hsame) hnode, ?_, htops.trans (by rw [h.tops]), ⟨?_, fun _ => hs'⟩, ?_⟩
    · exact h.spares.trans hr (htouches.spares (.inl hsame) fun ho => absurd ho hs.not_own)
    · exact fun ht => absurd (hfresh.symm.trans ht) Bool.false_ne_true
    · exact fun ht => absurd (hfresh.symm.trans ht) Bool.false_ne_true
  · obtain ⟨hle, hunnamed, n, hn⟩ := h.own hfresh
    have hown : r₁.Own t := ⟨n, hn ▸ List.mem_cons_self⟩
    have hlt := h.orderly.lt_size_of_own hown
    rw [hn] at hhistory
    have hown' : (register name set t r₁).2.Own t := ⟨n, hhistory ▸ List.mem_cons_self⟩
    refine ⟨htouches.orderly h.orderly hlt (hbuilt h.orderly.built) (hhistory ▸ .own)
      (fun hs => absurd hown hs.not_own) (iff_of_true hown' hown) hnode,
      htouches.spares_of_le h.spares hr hle, htops.trans (by rw [h.tops]), ⟨fun _ => ?_, ?_⟩,
      fun _ => hle⟩
    · exact ⟨hnames.trans (by rw [hunnamed]; rfl), n, hhistory⟩
    · exact fun ht => absurd (ht.symm.trans hfresh) Bool.false_ne_true

/-- Adding the type of a set changes nothing if it fails. -/
theorem addType_settles (c : InferenceConfig) (name : String) (set : SampleSet) (hr : r.Orderly) :
    (∃ e, addType c name set r = (.error e, r)) ∨
      ∃ t r', addType c name set r = (.ok (), r') ∧ Settles c name set r t r' := by
  rw [addType_eq, infer]
  split_ifs with hempty
  · exact .inl ⟨_, rfl⟩
  rcases hadd : Shape.empty.addAll c set.samples with e | shape
  · exact .inl ⟨_, rfl⟩
  · exact .inr ⟨(shape.emit c (isFresh c set) r).1, _, rfl,
      register_settles name hr (emit_emits (isFresh c set) shape hr)⟩

/-! ## All sets -/

/-- What adding the types of sets leaves: some of the sets, or all of them, have their top levels. -/
structure Publishes (c : InferenceConfig) (sets : Entries String SampleSet) (r : Recorded)
    (types : List TypeRef) (r' : Recorded) : Prop where
  orderly : r'.Orderly
  spares : r.Spares r'
  tops : r'.tops = r.tops ++ (Entries.keys sets).zip types
  settled : List.Forall₂ (Settled c r') sets types
  nodup : c.fixedTopLevels = true → types.Nodup ∧ ∀ t ∈ types, r.graph.size ≤ t

theorem Publishes.nil (hr : r.Orderly) : Publishes c [] r [] r :=
  ⟨hr, .refl r, (List.append_nil _).symm, .nil, fun _ => ⟨.nil, nofun⟩⟩

theorem Settles.publishes {r₁ : Recorded} {sets : Entries String SampleSet} {types : List TypeRef}
    (hr : r.Orderly) (h : Settles c name set r t r₁) (hrest : Publishes c sets r₁ types r') :
    Publishes c ((name, set) :: sets) r (t :: types) r' where
  orderly := hrest.orderly
  spares := h.spares.trans hr hrest.spares
  tops := by
    rw [hrest.tops, h.tops, List.append_assoc]
    rfl
  settled := .cons (h.settled.spared h.orderly hrest.spares) hrest.settled
  nodup hfixed := by
    obtain ⟨hnodup, hle⟩ := hrest.nodup hfixed
    have hfresh : isFresh c set = true := by simp [isFresh, hfixed]
    obtain ⟨-, n, hn⟩ := h.settled.fresh hfresh
    have hlt := h.orderly.lt_size_of_own ⟨n, hn ▸ List.mem_cons_self⟩
    refine ⟨List.nodup_cons.2 ⟨fun ht => ?_, hnodup⟩, fun u hu => ?_⟩
    · exact absurd (hle t ht) (Nat.not_le.2 hlt)
    · rcases List.mem_cons.1 hu with rfl | hu
      · exact h.size_le hfresh
      · exact Nat.le_trans h.spares.size_le (hle u hu)

theorem addTypesOf_publishes (c : InferenceConfig) (sets : Entries String SampleSet)
    (hr : r.Orderly) : ∃ done rest types, sets = done ++ rest ∧
      ((addTypesOf c sets r).1 = .ok () → rest = []) ∧
      Publishes c done r types (addTypesOf c sets r).2 := by
  induction sets generalizing r with
  | nil => exact ⟨[], [], [], rfl, fun _ => rfl, .nil hr⟩
  | cons entry sets ih =>
    obtain ⟨name, set⟩ := entry
    rw [addTypesOf_cons]
    rcases addType_settles c name set hr with ⟨e, h⟩ | ⟨t, r₁, h, hset⟩ <;> rw [h]
    · exact ⟨[], _, [], rfl, nofun, .nil hr⟩
    · obtain ⟨done, rest, types, rfl, hok, hrest⟩ := ih hset.orderly
      exact ⟨(name, set) :: done, rest, t :: types, rfl, hok, hset.publishes hr hrest⟩

/-! ## The graph alone -/

theorem addType_records (c : InferenceConfig) (name : String) (set : SampleSet) (r : Recorded) :
    addType c name set r.graph = ((addType c name set r).1, (addType c name set r).2.graph) := by
  rw [addType_eq, addType_eq, infer_records c _ set.samples r]
  rcases (infer c (isFresh c set) set.samples : TryBuild Recorded _ _) r with ⟨_ | t, _⟩
  · rfl
  · unfold register
    rcases set.description with _ | description <;> rfl

theorem addTypesOf_records (c : InferenceConfig) (sets : Entries String SampleSet) (r : Recorded) :
    addTypesOf c sets r.graph = ((addTypesOf c sets r).1, (addTypesOf c sets r).2.graph) := by
  induction sets generalizing r with
  | nil => rfl
  | cons entry sets ih =>
    obtain ⟨name, set⟩ := entry
    rw [addTypesOf_cons, addTypesOf_cons, addType_records]
    rcases addType c name set r with ⟨_ | _, _⟩
    · rfl
    · exact ih _

end JsonTypes.SampleSets
