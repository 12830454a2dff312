import JsonTypes.Proofs.Schema.Grounding
import JsonTypes.Proofs.Schema.Recording
import JsonTypes.Proofs.Schema.Soundness
import Mathlib.Logic.Relation

/-!
# No half-built type is published

A run adds a top level only when the conversion of its location has succeeded, and then no slot is
open. The type is grounded in what was converted until then, so it reaches filled slots and shared
nodes only, never a slot that an earlier run left behind. A conversion that fails later opens slots
of its own and leaves all these nodes as they are. So after any run, whatever the outcome, the top
levels that it added are complete (`runInto_published`).
-/

namespace JsonTypes

/-- From the first type, the children of nodes lead to the second one. -/
def Graph.Reaches (g : Graph) : TypeRef → TypeRef → Prop :=
  Relation.ReflTransGen fun t c => ∃ n, g.node? t = some n ∧ c ∈ n.children

namespace Materialize

open Recorded

section Grounded

variable {s : State Graph} {t x : TypeRef}

theorem Sound.node_of_grounded (hs : Sound (fun _ => False) s) (ht : s.answers.Grounded t) :
    ∃ n, s.sink.node? t = some n ∧ s.answers.Founded n := by
  cases ht with
  | type h =>
    obtain ⟨l, -, hc⟩ := h
    obtain ⟨schema, n, -, hy, hn⟩ := (hs.done l t hc).resolve_left id
    exact ⟨n, hn, planFor_founded hy⟩
  | shared h hc => exact ⟨_, hs.exact _ t h, hc⟩

/-- What a grounded type reaches is grounded, also when the graph has grown since. -/
theorem Sound.grounded_of_reaches (hs : Sound (fun _ => False) s) {g : Graph}
    (hg : s.sink.Extends g) (ht : s.answers.Grounded t) (h : g.Reaches t x) :
    s.answers.Grounded x := by
  induction h with
  | refl => exact ht
  | tail _ hstep ih =>
    obtain ⟨n, hn, hc⟩ := hstep
    obtain ⟨m, hm, hfounded⟩ := hs.node_of_grounded ih
    cases (hg _ m hm).symm.trans hn
    exact hfounded _ hc

end Grounded

/-! ## Complete states -/

/-- No slot is open, and every slot of a location is filled. -/
structure Complete (s : State Recorded) : Prop where
  sound : Sound (fun _ => False) s.plain
  built : s.sink.Built fun _ _ => True
  filled : ∀ l t, s.converted.get? l = some t → t ∈ s.sink.filled

theorem Complete.mem_filled {s : State Recorded} (h : Complete s) {t : TypeRef}
    (ht : s.plain.answers.Grounded t) (hr : t ∈ s.sink.reserved) : t ∈ s.sink.filled := by
  cases ht with
  | type ht =>
    obtain ⟨l, -, hc⟩ := ht
    exact h.filled l t hc
  | shared hn _ => exact absurd hr (h.built.tidy.apart _ t hn)

/-- A conversion leaves the types of a complete state alone, and if it succeeds, the state is
complete again. -/
theorem Complete.convert {s : State Recorded} (h : Complete s)
    (producers : List AttributeProducer) (steps : Nat) (l : Location) :
    Follows s.plain (Materialize.convert producers steps l s).2.plain ∧
      Adds [] s.sink (Materialize.convert producers steps l s).2.sink ∧
      ∀ t, (Materialize.convert producers steps l s).1 = .ok t →
        Complete (Materialize.convert producers steps l s).2 := by
  obtain ⟨hadds, hfulfils⟩ := convert_tracks producers steps l s
  obtain ⟨hfollows, hsound⟩ := convert_sound producers steps _ l s.plain h.sound
  rw [convert_records producers steps l s] at hfollows hsound
  refine ⟨hfollows, hadds, fun t ht => ⟨(hsound t ht).1, hadds.built h.built, fun l' t' ht' => ?_⟩⟩
  rcases hfulfils t ht l' t' ht' with hold | hnew
  · exact hadds.mem_filled (h.filled l' t' hold)
  · exact hnew

theorem Complete.addTopLevel {s : State Recorded} (h : Complete s) (name : String) (t : TypeRef) :
    Complete { s with sink := (Sink.addTopLevel name t s.sink).2 } where
  sound := h.sound.addTopLevel name t
  built := h.built.addTopLevel name t
  filled l' t' ht' := (adds_addTopLevel s.sink name t).mem_filled (h.filled l' t' ht')

variable {producers : List AttributeProducer} {steps : Nat}

theorem Complete.convertTopLevels : ∀ (topLevels : List (String × Location))
    {s s' : State Recorded}, Complete s →
      Materialize.convertTopLevels producers steps topLevels s = (.ok (), s') →
        Complete s' ∧ Adds (topLevels.map (·.1)) s.sink s'.sink
  | [], s, s', hs, h => by
    cases h
    exact ⟨hs, .refl _⟩
  | (name, l) :: rest, s, s', hs, h => by
    obtain ⟨t, s₁, hc, h⟩ := Action.of_bind_ok h
    obtain ⟨-, hadds, hcomplete⟩ := hs.convert producers steps l
    rw [hc] at hadds hcomplete
    obtain ⟨hs', hadds'⟩ :=
      Complete.convertTopLevels rest ((hcomplete t rfl).addTopLevel name t) h
    exact ⟨hs', (hadds.trans (adds_addTopLevel s₁.sink name t)).trans hadds'⟩

/-! ## The failing top level -/

section Split

variable {σ : Type} [Sink σ]

theorem convertTopLevels_append {done : List (String × Location)}
    (rest : List (String × Location)) : ∀ {s s₁ : State σ},
      convertTopLevels producers steps done s = (.ok (), s₁) →
        convertTopLevels producers steps (done ++ rest) s =
          convertTopLevels producers steps rest s₁ := by
  induction done with
  | nil =>
    intro s s₁ h
    cases h
    rfl
  | cons e done ih =>
    intro s s₁ h
    obtain ⟨t, s₂, hc, h⟩ := Action.of_bind_ok h
    exact (Action.bind_ok hc).trans (ih h)

/-- A run succeeds with all top levels, or with those before the first one that fails. -/
theorem convertTopLevels_split : ∀ (topLevels : List (String × Location)) (s : State σ),
    ∃ done rest s₁, topLevels = done ++ rest ∧
      convertTopLevels producers steps done s = (.ok (), s₁) ∧
      (rest = [] ∨ ∃ name l more e, rest = (name, l) :: more ∧
        (convert producers steps l s₁).1 = .error e)
  | [], s => ⟨[], [], s, rfl, rfl, .inl rfl⟩
  | (name, l) :: rest, s => by
    rcases hc : convert producers steps l s with ⟨e | t, s₁⟩
    · exact ⟨[], _, s, rfl, rfl, .inr ⟨name, l, rest, e, rfl, by rw [hc]⟩⟩
    · obtain ⟨done, rest', s₂, rfl, hdone, hrest⟩ := convertTopLevels_split rest
        { s₁ with sink := (Sink.addTopLevel name t s₁.sink).2 }
      exact ⟨(name, l) :: done, rest', s₂, rfl, (Action.bind_ok hc).trans hdone, hrest⟩

theorem convertTopLevels_error {name : String} {l : Location} {e : SchemaError} {s : State σ}
    (h : (convert producers steps l s).1 = .error e) (more : List (String × Location)) :
    convertTopLevels producers steps ((name, l) :: more) s =
      (.error e, (convert producers steps l s).2) :=
  Action.bind_error (Prod.ext h rfl)

end Split

/-! ## After a run -/

/-- What has been published is complete: it reaches nodes only, and none that is a slot without
its fill. -/
theorem Complete.reaches {s : State Recorded} (h : Complete s) {names : List String}
    {g : Recorded} (hadds : Adds names s.sink g) (hg : s.sink.graph.Extends g.graph) {t x : TypeRef}
    (ht : s.plain.answers.Grounded t) (hx : g.graph.Reaches t x) :
    (∃ n, g.graph.node? x = some n) ∧ (x ∈ g.reserved → x ∈ g.filled) := by
  have hgrounded := h.sound.grounded_of_reaches hg ht hx
  obtain ⟨n, hn, -⟩ := h.sound.node_of_grounded hgrounded
  refine ⟨⟨n, hg x n hn⟩, fun hr => hadds.mem_filled (h.mem_filled hgrounded ?_)⟩
  exact hadds.mem_reserved hr (Graph.lt_size_of_node? hn)

/-- After a run, whatever its outcome, the top levels that it added are those before the one that
failed, or all of them. What they reach is in the arena, and every slot among it is filled. The run
fills only slots of its own, and none of them twice. -/
theorem runInto_published {producers : List AttributeProducer} {steps : Nat}
    {topLevels : List (String × Location)} {r r' : Resolver} {g g' : Recorded}
    {outcome : Except SchemaError Unit} (hg : g.Built fun _ _ => True)
    (hnames : (topLevels.map (·.1)).Nodup)
    (h : runInto steps producers topLevels r g = (outcome, r', g')) :
    run steps producers topLevels r g.graph = (outcome, r', g'.graph) ∧
      g'.Built (fun _ _ => True) ∧
      (∃ slots fills, g'.reserved = g.reserved ++ slots ∧ g'.filled = g.filled ++ fills ∧
        fills.Nodup ∧ ∀ t ∈ fills, t ∈ slots) ∧
      ∃ done rest, topLevels = done ++ rest ∧
        (rest = [] ∧ outcome = .ok () ∨ ∃ name l more e, rest = (name, l) :: more ∧
          outcome = .error e ∧ (runInto steps producers done r g).1 = .ok () ∧
          (runInto steps producers (done ++ [(name, l)]) r g).1 = .error e) ∧
        g'.named = g.named ++ done.map (·.1) ∧
        (∀ name, name ∉ done.map (·.1) → g'.graph.topLevel? name = g.graph.topLevel? name) ∧
        ∀ name ∈ done.map (·.1), ∃ t, g'.graph.topLevel? name = some t ∧
          ∀ x, g'.graph.Reaches t x →
            (∃ n, g'.graph.node? x = some n) ∧ (x ∈ g'.reserved → x ∈ g'.filled) := by
  have hstart : Complete ⟨r, g, []⟩ :=
    ⟨⟨hg.tidy.exact, nofun, nofun, nofun, nofun⟩, hg, nofun⟩
  have hplain := convertTopLevels_records producers steps topLevels ⟨r, g, []⟩
  obtain ⟨done, rest, s₁, rfl, hdone, hrest⟩ := convertTopLevels_split topLevels ⟨r, g, []⟩
  obtain ⟨hcomplete, hadds⟩ := hstart.convertTopLevels done hdone
  have hplain₁ := convertTopLevels_records producers steps done ⟨r, g, []⟩
  rw [hdone] at hplain₁
  rw [List.map_append] at hnames
  obtain ⟨-, -, hothers, hnamed⟩ :=
    convertTopLevels_sound done hstart.sound (List.nodup_append.1 hnames).1 hplain₁
  unfold runInto at h
  rcases hc : convertTopLevels producers steps (done ++ rest) ⟨r, g, []⟩ with ⟨outcome', s'⟩
  rw [hc] at h hplain
  cases h
  -- The state at the end adds to the one after the last success, and changes none of its types.
  have hend : Follows s₁.plain s'.plain ∧ Adds [] s₁.sink s'.sink ∧
      (rest = [] ∧ outcome = .ok () ∨ ∃ name l more e, rest = (name, l) :: more ∧
        outcome = .error e ∧ (runInto steps producers done r g).1 = .ok () ∧
        (runInto steps producers (done ++ [(name, l)]) r g).1 = .error e) := by
    rw [convertTopLevels_append rest hdone] at hc
    rcases hrest with rfl | ⟨name, l, more, e, rfl, he⟩
    · cases hc
      exact ⟨.refl _, .refl _, .inl ⟨rfl, rfl⟩⟩
    · rw [convertTopLevels_error he] at hc
      cases hc
      obtain ⟨hfollows, hadds', -⟩ := hcomplete.convert producers steps l
      refine ⟨hfollows, hadds', .inr ⟨name, l, more, e, rfl, rfl, ?_, ?_⟩⟩
      · unfold runInto
        rw [hdone]
      · unfold runInto
        rw [convertTopLevels_append [(name, l)] hdone, convertTopLevels_error he]
  obtain ⟨hfollows, hadds', houtcome⟩ := hend
  have hall := hadds.trans hadds'
  have htop : ∀ name, s'.sink.graph.topLevel? name = s₁.sink.graph.topLevel? name :=
    fun name => congrArg (Entries.get? · name) hfollows.topLevels
  obtain ⟨slots, fills, hr, hf, hnodup, hsub, -⟩ := hall.slots
  refine ⟨?_, hall.built hg, ⟨slots, fills, hr, hf, hnodup, hsub⟩, done, rest, rfl, houtcome, ?_,
    fun name hname => ?_, fun name hname => ?_⟩
  · unfold run runInto
    exact congrArg (fun x => (x.1, x.2.resolver, x.2.sink)) hplain
  · rw [hall.named, List.append_nil]
  · rw [htop]
    exact hothers name hname
  · obtain ⟨⟨_, l⟩, hmem, rfl⟩ := List.mem_map.1 hname
    obtain ⟨t, ht, htype⟩ := hnamed _ l hmem
    refine ⟨t, (htop _).trans ht, fun x hx => ?_⟩
    exact hcomplete.reaches hadds' hfollows.nodes (.type htype) hx

/-- A graph with a slot that an earlier run left open. -/
def leftover : Recorded := ((Sink.reserve : StateM Recorded TypeRef) ⟨.empty, []⟩).2

/-- Diaries, and a top level whose location does not exist. -/
def lostRun : Except SchemaError Unit × Resolver × Recorded :=
  runInto 8 [] [("Diary", diaryRoot), ("Lost", diaryRoot.push "lost")] diaryResolver leftover

/-- A run that fails at its second top level has published the first one, complete, while the slot
from before is still open. -/
theorem runInto_published_lost :
    leftover.Built (fun _ _ => True) ∧ lostRun.1 ≠ .ok () ∧
      0 ∈ lostRun.2.2.reserved ∧ 0 ∉ lostRun.2.2.filled ∧
      ∃ t, lostRun.2.2.graph.topLevel? "Diary" = some t ∧
        ∀ x, lostRun.2.2.graph.Reaches t x →
          (∃ n, lostRun.2.2.graph.node? x = some n) ∧
            (x ∈ lostRun.2.2.reserved → x ∈ lostRun.2.2.filled) := by
  have hbuilt : leftover.Built fun _ _ => True := .reserve .empty
  have hnamed : lostRun.2.2.named = ["Diary"] := by decide +kernel
  have hparts : ∀ p : Except SchemaError Unit × Resolver × Recorded, p = (p.1, p.2.1, p.2.2) :=
    fun _ => rfl
  have hnames : ([("Diary", diaryRoot), ("Lost", diaryRoot.push "lost")].map (·.1)).Nodup := by
    decide
  obtain ⟨-, -, -, done, rest, -, -, hdone, -, hcomplete⟩ :=
    runInto_published hbuilt hnames (hparts lostRun)
  have hmem : "Diary" ∈ done.map (·.1) := by
    rw [hnamed] at hdone
    exact (show done.map (·.1) = ["Diary"] from hdone.symm) ▸ List.mem_cons_self
  exact ⟨hbuilt, by decide +kernel, by decide +kernel, by decide +kernel, hcomplete _ hmem⟩

end Materialize

end JsonTypes
