import JsonTypes.Proofs.Samples.Content

/-!
# When inference fails

A sample may have values as many levels below its root as the settings allow, and an empty array or
object is on the level on which it stands. Folding in a sample notices a value below that whichever
way leads there (`Json.lt_height_iff`), and what it says is the same for all of them. Nothing is
emitted before all samples are folded in, so inference that fails leaves the sink alone
(`infer_error_iff`).
-/

namespace JsonTypes

namespace Json

/-- The value has the other one so many levels inside. -/
inductive Encloses : Json → Nat → Json → Prop
  | self (v : Json) : Encloses v 0 v
  | element {items : List Json} {u w : Json} {level : Nat} : u ∈ items → Encloses u level w →
      Encloses (array items) (level + 1) w
  | member {members : List (String × Json)} {key : String} {u w : Json} {level : Nat} :
      (key, u) ∈ members → Encloses u level w → Encloses (object members) (level + 1) w

theorem lt_heightAll_iff {n : Nat} {items : List Json} :
    n < heightAll items ↔ ∃ v ∈ items, n ≤ v.height := by
  induction items with
  | nil => simp [heightAll]
  | cons v rest ih => simp only [heightAll, lt_sup_iff, Nat.lt_succ_iff, ih, List.mem_cons, exists_eq_or_imp]

theorem lt_heightMembers_iff {n : Nat} {members : List (String × Json)} :
    n < heightMembers members ↔ ∃ e ∈ members, n ≤ e.2.height := by
  induction members with
  | nil => simp [heightMembers]
  | cons e rest ih =>
    simp only [heightMembers, lt_sup_iff, Nat.lt_succ_iff, ih, List.mem_cons, exists_eq_or_imp]

theorem Encloses.le_height {v w : Json} {level : Nat} (h : v.Encloses level w) :
    level ≤ v.height := by
  induction h with
  | self => exact Nat.zero_le _
  | element hu _ ih => exact lt_heightAll_iff.2 ⟨_, hu, ih⟩
  | member hu _ ih => exact lt_heightMembers_iff.2 ⟨_, hu, ih⟩

/-- There is a value on each of the levels. -/
theorem exists_encloses {v : Json} {level : Nat} (h : level ≤ v.height) :
    ∃ w, v.Encloses level w := by
  induction level generalizing v with
  | zero => exact ⟨v, .self v⟩
  | succ level ih =>
    cases v with
    | array items =>
      obtain ⟨u, hu, hle⟩ := lt_heightAll_iff.1 h
      obtain ⟨w, hw⟩ := ih hle
      exact ⟨w, .element hu hw⟩
    | object members =>
      obtain ⟨⟨key, u⟩, hu, hle⟩ := lt_heightMembers_iff.1 h
      obtain ⟨w, hw⟩ := ih hle
      exact ⟨w, .member hu hw⟩
    | null | bool | number | string => exact absurd h (Nat.not_succ_le_zero level)

theorem lt_height_iff {limit : Nat} {v : Json} :
    limit < v.height ↔ ∃ level w, v.Encloses level w ∧ limit < level := by
  constructor
  · intro h
    obtain ⟨w, hw⟩ := exists_encloses (Nat.le_refl v.height)
    exact ⟨_, w, hw, h⟩
  · rintro ⟨level, w, hw, hlevel⟩
    exact Nat.lt_of_lt_of_le hlevel hw.le_height

end Json

open Shape

section Sinks

variable {σ : Type} [Sink σ]

/-- Inference fails without samples and with one that is nested too deeply, and otherwise emits the
shape of all. -/
theorem infer_split (c : InferenceConfig) (fresh : Bool) (samples : List Json) (sink : σ) :
    (samples = [] ∧ infer c fresh samples sink = (.error .noSamples, sink)) ∨
      (samples ≠ [] ∧ (∃ v ∈ samples, c.maxDepth < v.height) ∧
        infer c fresh samples sink = (.error (tooDeep c), sink)) ∨
      (samples ≠ [] ∧ (∀ v ∈ samples, v.height ≤ c.maxDepth) ∧
        ∃ s, addAll c samples .empty = .ok s ∧
          infer c fresh samples sink = (.ok (emit c fresh s sink).1, (emit c fresh s sink).2)) := by
  rcases samples with _ | ⟨v, rest⟩
  · exact .inl ⟨rfl, rfl⟩
  refine .inr ?_
  rcases addAll_outcome (c := c) (v :: rest) .empty with ⟨s, hs, hfit⟩ | ⟨he, hdeep⟩
  · refine .inr ⟨List.cons_ne_nil _ _, hfit, s, hs, ?_⟩
    simp only [infer, List.isEmpty_cons, hs]
    rfl
  · refine .inl ⟨List.cons_ne_nil _ _, hdeep, ?_⟩
    simp only [infer, List.isEmpty_cons, he]
    rfl

/-- What holds of a sink and of all that is emitted into it holds after inference. -/
theorem infer_keeps {P : σ → Prop} {c : InferenceConfig} {fresh : Bool} {sink : σ}
    (samples : List Json) (h : P sink) (hemit : ∀ s, P (emit c fresh s sink).2) :
    P (infer c fresh samples sink).2 := by
  rcases infer_split c fresh samples sink with ⟨-, hi⟩ | ⟨-, -, hi⟩ | ⟨-, -, s, -, hi⟩ <;> rw [hi]
  · exact h
  · exact h
  · exact hemit s

/-- How inference fails, and that it does nothing then. -/
theorem infer_error_iff (c : InferenceConfig) (fresh : Bool) (samples : List Json)
    (sink sink' : σ) (e : InferenceError) :
    infer c fresh samples sink = (.error e, sink') ↔
      sink' = sink ∧ (samples = [] ∧ e = .noSamples ∨
        (∃ v ∈ samples, ∃ level w, v.Encloses level w ∧ c.maxDepth < level) ∧
          e = .maxDepthExceeded (c.maxDepth + 1) c.maxDepth) := by
  simp only [← Json.lt_height_iff]
  rcases infer_split c fresh samples sink with ⟨rfl, h⟩ | ⟨hne, hdeep, h⟩ | ⟨hne, hfit, s, -, h⟩
  · rw [h, Prod.mk.injEq, Except.error.injEq]
    simp [eq_comm, and_comm]
  · rw [h, Prod.mk.injEq, Except.error.injEq, tooDeep]
    simp [hne, hdeep, eq_comm, and_comm]
  · have hdeep : ¬∃ v ∈ samples, c.maxDepth < v.height := fun ⟨v, hv, hlt⟩ =>
      Nat.not_lt.2 (hfit v hv) hlt
    rw [h, Prod.mk.injEq]
    simp [hne, hdeep]

/-- With no level allowed below the root, an empty array passes and an array of one does not. -/
example : (infer ⟨true, true, false, 0⟩ false [.array []] Graph.empty).1 = .ok 1 ∧
    (infer ⟨true, true, false, 0⟩ false [.array [], .array [.array []]] Graph.empty).1 =
      .error (.maxDepthExceeded 1 0) := by
  decide +kernel

end Sinks

end JsonTypes
