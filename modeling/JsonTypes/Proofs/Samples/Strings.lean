import JsonTypes.Proofs.Decimal.Rounding
import JsonTypes.Proofs.Samples.Exactness

/-!
# The node for strings

The strings of one place are folded into a state that forgets: the distinct ones once there are too
many of them, and the format once two strings disagree. Even so the node tells a rule about all of
them (`StringRule`). A format stays only if every string has it (`foldl_consistent_iff`), the
distinct strings are at hand whenever they are few enough (`Holds.isEnumLike_iff`), and to compare
their number with the square root of the number of occurrences as doubles is to compare its square
(`Double.ofNatRank_lt_sqrtRank_iff`).
-/

namespace JsonTypes

/-- Which node is for the strings: one with their format if all have the same, else an enum of the
distinct ones if these are at most 512 and fewer than the square root of all, else one for any
string. -/
structure StringRule (c : InferenceConfig) (texts : List String) (n : Node) : Prop where
  format : ∀ f, n = .string (some f) ↔
    c.inferDates = true ∧ ∀ text ∈ texts, Temporal.detectFormat text = some f
  enum : (∃ cases, n = .enum cases) ↔ (∀ f, n ≠ .string (some f)) ∧ c.inferEnums = true ∧
    1 ≤ texts.toFinset.card ∧ texts.toFinset.card ≤ 512 ∧
    texts.toFinset.card * texts.toFinset.card < texts.length
  cases : ∀ cases, n = .enum cases → ∀ text, text ∈ cases.toList ↔ text ∈ texts
  plain : n = .string none ↔ (∀ f, n ≠ .string (some f)) ∧ ∀ cases, n ≠ .enum cases

namespace StringShape

variable {c : InferenceConfig} {s : StringShape} {texts : List String}

theorem format?_eq_some_iff {text : String} {f : StringFormat} :
    format? c text = some f ↔ c.inferDates = true ∧ Temporal.detectFormat text = some f := by
  unfold format?
  split_ifs with h
  · simp [h]
  · simp [h]

theorem add_eq_consistent_iff {state : FormatState} {d : Option StringFormat} {f : StringFormat} :
    state.add d = .consistent f ↔ d = some f ∧ (state = .unset ∨ state = .consistent f) := by
  refine ⟨FormatState.of_add_eq_consistent, ?_⟩
  rintro ⟨rfl, rfl | rfl⟩
  · rfl
  · simp [FormatState.add]

/-- What the state was does not matter unless there was a format before. -/
theorem foldl_consistent_iff (texts : List String) (state : FormatState) (f : StringFormat) :
    texts.foldl (fun state text => state.add (format? c text)) state = .consistent f ↔
      (state = .consistent f ∨ state = .unset ∧ texts ≠ []) ∧
        ∀ text ∈ texts, format? c text = some f := by
  induction texts generalizing state with
  | nil => simp
  | cons text rest ih =>
    have hne : state.add (format? c text) ≠ .unset := FormatState.add_ne_unset _ _
    rw [List.foldl_cons, ih, List.forall_mem_cons, add_eq_consistent_iff]
    simp only [hne, false_and, or_false, ne_eq, reduceCtorEq, not_false_eq_true, and_true]
    tauto

theorem Holds.format_iff (h : s.Holds c texts) (hne : texts ≠ []) (f : StringFormat) :
    s.format = .consistent f ↔
      c.inferDates = true ∧ ∀ text ∈ texts, Temporal.detectFormat text = some f := by
  obtain ⟨text, htext⟩ := List.exists_mem_of_ne_nil texts hne
  rw [h.format, foldl_consistent_iff, and_iff_right (.inr ⟨rfl, hne⟩)]
  simp only [format?_eq_some_iff]
  exact ⟨fun hall => ⟨(hall text htext).1, fun t ht => (hall t ht).2⟩,
    fun ⟨hdates, hall⟩ t ht => ⟨hdates, hall t ht⟩⟩

theorem Holds.isEnumLike_iff (h : s.Holds c texts) : s.isEnumLike = true ↔
    1 ≤ texts.toFinset.card ∧ texts.toFinset.card ≤ 512 ∧
      texts.toFinset.card * texts.toFinset.card < texts.length := by
  have hmany : s.tooManyCases = false ↔ texts.toFinset.card ≤ 512 := by
    rw [← Bool.not_eq_true, h.tooMany, not_lt]
    rfl
  unfold isEnumLike
  rw [Bool.and_eq_true, Bool.and_eq_true, Bool.not_eq_true', decide_eq_true_iff, decide_eq_true_iff,
    h.occurrences, and_assoc]
  constructor
  · rintro ⟨hfew, hpos, hlt⟩
    rw [h.length_cases hfew] at hpos hlt
    have hle := hmany.1 hfew
    exact ⟨hpos, hle, (Double.ofNatRank_lt_sqrtRank_iff hpos hle).1 hlt⟩
  · rintro ⟨hpos, hle, hlt⟩
    have hfew := hmany.2 hle
    rw [h.length_cases hfew]
    exact ⟨hfew, hpos, (Double.ofNatRank_lt_sqrtRank_iff hpos hle).2 hlt⟩

theorem node_of_format {f : StringFormat} (h : s.format = .consistent f) :
    s.node c = .string (some f) := by
  rw [node, h]

theorem node_of_no_format (h : ∀ f, s.format ≠ .consistent f) : s.node c =
    if c.inferEnums && s.isEnumLike then .enum (.ofList s.cases) else .string none := by
  unfold node
  split
  · rename_i f hf
    exact absurd hf (h f)
  · rfl

theorem Holds.stringRule (h : s.Holds c texts) (hne : texts ≠ []) :
    StringRule c texts (s.node c) := by
  have hformat := h.format_iff hne
  have henum := h.isEnumLike_iff
  by_cases hf : ∃ f, s.format = .consistent f
  · obtain ⟨f, hf⟩ := hf
    rw [node_of_format hf]
    refine ⟨fun f' => ?_, by simp, by simp, by simp⟩
    rw [← hformat, hf]
    simp
  · rw [not_exists] at hf
    rw [node_of_no_format hf]
    by_cases hcond : c.inferEnums && s.isEnumLike
    · rw [if_pos hcond]
      rw [Bool.and_eq_true] at hcond
      obtain ⟨hpos, hle, hlt⟩ := henum.1 hcond.2
      have hfew : s.tooManyCases = false := by
        rw [← Bool.not_eq_true, h.tooMany, not_lt]
        exact hle
      refine ⟨fun f => ?_, iff_of_true ⟨_, rfl⟩ ⟨by simp, hcond.1, hpos, hle, hlt⟩,
        fun cases hcases text => ?_, by simp⟩
      · rw [← hformat]
        simpa using hf f
      · cases hcases
        rw [SortedSet.mem_ofList, h.cases hfew]
    · rw [if_neg hcond]
      refine ⟨fun f => ?_, iff_of_false (by simp) ?_, by simp, by simp⟩
      · rw [← hformat]
        simpa using hf f
      · rintro ⟨-, henums, hfew⟩
        rw [Bool.and_eq_true] at hcond
        exact hcond ⟨henums, henum.2 hfew⟩

end StringShape

section Infer

open Shape

variable {c : InferenceConfig} {fresh : Bool} {samples : List Json} {g g' : Graph} {t u : TypeRef}

theorem Inferred.stringRule {vs : List Json} {n : Node} (h : Inferred c g vs t)
    (hn : g.Offers t n) (hf : n.family? = some .text) :
    StringRule c (vs.filterMap Json.string?) n := by
  obtain ⟨nodes, hnodes, -, hoffers⟩ := h.exists_offers
  have hmem := (hoffers n .text hf).2 hn
  obtain ⟨text, htext⟩ := hnodes.contains.text.1 ⟨n, hmem, hf⟩
  obtain ⟨strings, hstrings, rfl⟩ := hnodes.text n hmem hf
  exact hstrings.stringRule (List.ne_nil_of_mem (Json.mem_filterMap_string?.2 htext))

/-- A type is for strings just if there are strings at its place, and then it has one node for them,
which follows the rule for all of them. -/
theorem infer_strings (hg : g.Reachable) (h : infer c fresh samples g = (.ok t, g'))
    (p : List Json.Descent) (hu : g'.TypeAt t p u) :
    let texts := (Json.valuesAt samples p).filterMap Json.string?
    ((∃ n, g'.Offers u n ∧ n.family? = some .text) ↔ texts ≠ []) ∧
      ∀ n, g'.Offers u n → n.family? = some .text → StringRule c texts n ∧
        ∀ n', g'.Offers u n' → n'.family? = some .text → n' = n := by
  intro texts
  have ht := (inferred_of_infer hg.exact h).typeAt hu
  refine ⟨?_, fun n hn hf => ⟨ht.stringRule hn hf, fun n' hn' hf' => ht.offers_unique hn' hn hf' hf⟩⟩
  obtain ⟨nodes, hnodes, -, hoffers⟩ := ht.exists_offers
  have hcontains := hnodes.contains.congr hoffers
  rw [hcontains.text, Ne, List.eq_nil_iff_forall_not_mem, not_forall_not]
  exact exists_congr fun _ => Json.mem_filterMap_string?.symm

/-- Two distinct strings need five occurrences to be an enum. -/
theorem infer_strings_five :
    let samples : List Json := ["a", "b", "a", "a", "a"].map .string
    Graph.empty.Reachable ∧ ∃ t g', infer .default false samples Graph.empty = (.ok t, g') ∧
      g'.TypeAt t [] t ∧ ∃ cases, g'.Offers t (.enum cases) ∧
        ∀ text, text ∈ cases.toList ↔ text ∈ ["a", "b", "a", "a", "a"] := by
  intro samples
  have hg : Graph.empty.Reachable := ⟨_, .empty⟩
  have hfit : ¬∃ v ∈ samples, InferenceConfig.default.maxDepth < v.height := by
    simp [samples, Json.height]
  have hdate : Temporal.detectFormat "a" = none := by decide +kernel
  rcases infer_cases .default false samples hg.exact with ⟨hnil, -⟩ | ⟨-, hdeep, -⟩ |
    ⟨-, -, t, g', h, -⟩
  · exact absurd hnil (List.cons_ne_nil _ _)
  · exact absurd hdeep hfit
  · obtain ⟨hiff, hrule⟩ := infer_strings hg h [] rfl
    obtain ⟨n, hn, hf⟩ := hiff.2 (List.cons_ne_nil _ _)
    obtain ⟨hformat, henum, hcases, -⟩ := (hrule n hn hf).1
    have hno : ∀ f, n ≠ .string (some f) := fun f hf => by
      cases hdate.symm.trans (((hformat f).1 hf).2 "a" List.mem_cons_self)
    obtain ⟨cases, rfl⟩ := henum.2 ⟨hno, rfl, by decide, by decide, by decide⟩
    exact ⟨hg, t, g', h, rfl, cases, hn, hcases cases rfl⟩

end Infer

end JsonTypes
