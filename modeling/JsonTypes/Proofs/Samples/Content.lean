import Mathlib.Data.Finset.Card
import JsonTypes.Proofs.Samples.Coverage

/-!
# What a shape says of the values folded in

Folding values in one by one leaves a shape that can be read off the list of them
(`Shape.Holds`): how often its position came up, which kinds there were, and for arrays and
objects what the shapes of all elements together and of all values under one key say of those.
Nothing of it depends on the order of the values but the order of the distinct strings and of the
properties, and neither shows in a node.

The folding fails just if a value is nested too deeply, and then always with the first level that
is too deep (`Shape.addAt_outcome`).
-/

namespace JsonTypes

namespace Json

mutual

/-- How many levels of values are below the value's own. -/
def height : Json → Nat
  | array items => heightAll items
  | object members => heightMembers members
  | _ => 0

def heightAll : List Json → Nat
  | [] => 0
  | v :: rest => max (height v + 1) (heightAll rest)

def heightMembers : List (String × Json) → Nat
  | [] => 0
  | (_, v) :: rest => max (height v + 1) (heightMembers rest)

end

/-- The values under a key. -/
def under (key : String) (members : List (String × Json)) : List Json :=
  (members.filter (·.1 = key)).map (·.2)

theorem under_append (key : String) (ms ms' : List (String × Json)) :
    under key (ms ++ ms') = under key ms ++ under key ms' := by
  simp [under]

theorem under_perm (key : String) {ms ms' : List (String × Json)} (h : ms.Perm ms') :
    (under key ms).Perm (under key ms') :=
  (h.filter _).map _

theorem under_eq_nil_iff {key : String} {ms : List (String × Json)} :
    under key ms = [] ↔ key ∉ Entries.keys ms := by
  simp only [under, List.map_eq_nil_iff, List.filter_eq_nil_iff, decide_eq_true_eq, Entries.keys,
    List.mem_map, not_exists, not_and]

end Json

namespace StringShape

/-- The format that counts for a string. -/
def format? (c : InferenceConfig) (text : String) : Option StringFormat :=
  if c.inferDates then Temporal.detectFormat text else none

/-- What a shape says of the strings at its position. -/
structure Holds (c : InferenceConfig) (s : StringShape) (texts : List String) : Prop where
  occurrences : s.occurrences = texts.length
  nodup : s.cases.Nodup
  tooMany : s.tooManyCases = true ↔ maxCases < texts.toFinset.card
  cases : s.tooManyCases = false → ∀ text, text ∈ s.cases ↔ text ∈ texts
  format : s.format = texts.foldl (fun f text => f.add (format? c text)) .unset

variable {c : InferenceConfig} {s s' : StringShape} {texts texts' : List String}

theorem holds_empty (c : InferenceConfig) : Holds c empty [] :=
  ⟨rfl, .nil, by simp [empty], fun _ _ => Iff.rfl, rfl⟩

theorem Holds.length_cases (h : s.Holds c texts) (hs : s.tooManyCases = false) :
    s.cases.length = texts.toFinset.card := by
  rw [← List.toFinset_card_of_nodup h.nodup]
  congr 1
  ext text
  simp [h.cases hs text]

theorem card_concat (texts : List String) (text : String) :
    (texts ++ [text]).toFinset.card = texts.toFinset.card + if text ∈ texts then 0 else 1 := by
  rw [List.toFinset_append, Finset.union_comm]
  split_ifs with h
  · rw [Finset.union_eq_right.2 (by simpa using h), Nat.add_zero]
  · simp [h]

/-- A string that is new makes the distinct ones too many if there were as many as are told
apart. -/
theorem Holds.addCase (h : s.Holds c texts) (text : String) :
    (s.addCase text).cases.Nodup ∧
      ((s.addCase text).tooManyCases = true ↔ maxCases < (texts ++ [text]).toFinset.card) ∧
      ((s.addCase text).tooManyCases = false →
        ∀ t, t ∈ (s.addCase text).cases ↔ t ∈ texts ++ [text]) := by
  rw [card_concat]
  unfold StringShape.addCase
  by_cases hmany : s.tooManyCases = true
  · have hlt := h.tooMany.1 hmany
    rw [if_pos (by simp [hmany])]
    exact ⟨h.nodup, iff_of_true hmany (Nat.lt_add_right _ hlt), fun hno => by simp [hmany] at hno⟩
  rw [Bool.not_eq_true] at hmany
  have hle := mt h.tooMany.2 (by simp [hmany])
  have hmem := h.cases hmany text
  by_cases hold : text ∈ texts
  · rw [if_pos (by simpa [hmany] using hmem.2 hold), if_pos hold]
    refine ⟨h.nodup, h.tooMany, fun _ t => (h.cases hmany t).trans ?_⟩
    rw [List.mem_append, List.mem_singleton]
    exact ⟨.inl, fun ht => ht.elim id fun he => he ▸ hold⟩
  have hnew : text ∉ s.cases := mt hmem.1 hold
  rw [if_neg (by simp [hmany, hnew]), if_neg hold, h.length_cases hmany]
  split_ifs with hlt
  · refine ⟨?_, iff_of_false (by simp [hmany]) (Nat.not_lt.2 hlt), fun _ t => ?_⟩
    · exact List.nodup_append.2 ⟨h.nodup, List.nodup_singleton _, by grind⟩
    · simp only [List.mem_append, h.cases hmany t]
  · exact ⟨.nil, iff_of_true rfl (Nat.lt_succ_of_le (Nat.not_lt.1 hlt)), nofun⟩

theorem Holds.add (h : s.Holds c texts) (text : String) :
    (s.add c text).Holds c (texts ++ [text]) := by
  obtain ⟨hnodup, hmany, hcases⟩ := h.addCase text
  refine ⟨?_, hnodup, hmany, hcases, ?_⟩
  · have hocc : (s.addCase text).occurrences = s.occurrences := by
      unfold StringShape.addCase
      split_ifs <;> rfl
    rw [List.length_append, ← h.occurrences, ← hocc]
    rfl
  · rw [List.foldl_append, ← h.format, ← addCase_format s text]
    rfl

theorem format_comm (f : FormatState) (a b : Option StringFormat) :
    (f.add a).add b = (f.add b).add a := by
  cases f <;> cases a <;> cases b <;> simp only [FormatState.add] <;> grind [FormatState.add]

/-- The order of the strings does not show in the node. -/
theorem Holds.node_eq (h : s.Holds c texts) (h' : s'.Holds c texts') (hp : texts.Perm texts') :
    s.node c = s'.node c := by
  have hset : texts.toFinset = texts'.toFinset := List.toFinset_eq_of_perm _ _ hp
  have hformat : s.format = s'.format := by
    rw [h.format, h'.format]
    exact hp.foldl_eq' (fun _ _ _ _ _ => format_comm _ _ _) _
  have hmany : s.tooManyCases = s'.tooManyCases := by
    rw [Bool.eq_iff_iff, h.tooMany, h'.tooMany, hset]
  have hocc : s.occurrences = s'.occurrences := by
    rw [h.occurrences, h'.occurrences, hp.length_eq]
  unfold StringShape.node isEnumLike
  rw [hformat, hmany, hocc]
  rcases hs : s'.tooManyCases with _ | _
  · have hcases : ∀ t, t ∈ s.cases ↔ t ∈ s'.cases := fun t => by
      rw [h.cases (hmany.trans hs), h'.cases hs, hp.mem_iff]
    rw [h.length_cases (hmany.trans hs), h'.length_cases hs, hset, SortedSet.ofList_congr hcases]
  · simp

end StringShape

namespace ScalarShape

/-- What a shape says of the kinds of the values at its position. -/
structure Holds (c : InferenceConfig) (s : ScalarShape) (vs : List Json) : Prop where
  null : s.null = true ↔ .null ∈ vs
  boolean : s.boolean = true ↔ ∃ b, .bool b ∈ vs
  integer : s.integer = true ↔ ∃ i, .number (.integer i) ∈ vs
  double : s.double = true ↔ ∃ d, .number (.double d) ∈ vs
  strings_eq_none : s.strings = none ↔ vs.filterMap Json.string? = []
  strings : (s.strings.getD .empty).Holds c (vs.filterMap Json.string?)

variable {c : InferenceConfig} {s s' : ScalarShape} {vs vs' : List Json}

theorem holds_empty (c : InferenceConfig) : Holds c empty [] :=
  ⟨by simp [empty], by simp [empty], by simp [empty], by simp [empty], by simp [empty],
    StringShape.holds_empty c⟩

theorem Holds.addNull (h : s.Holds c vs) : Holds c { s with null := true } (vs ++ [.null]) := by
  obtain ⟨hnull, hbool, hint, hdouble, hnone, hstrings⟩ := h
  constructor <;> simp_all [List.filterMap_cons, Json.string?]

theorem Holds.addBool (h : s.Holds c vs) (b : Bool) :
    Holds c { s with boolean := true } (vs ++ [.bool b]) := by
  obtain ⟨hnull, hbool, hint, hdouble, hnone, hstrings⟩ := h
  constructor <;> simp_all [List.filterMap_cons, Json.string?]

theorem Holds.addNumber (h : s.Holds c vs) (n : Number) :
    Holds c (s.addNumber n) (vs ++ [.number n]) := by
  obtain ⟨hnull, hbool, hint, hdouble, hnone, hstrings⟩ := h
  cases n <;> constructor <;> simp_all [ScalarShape.addNumber, List.filterMap_cons, Json.string?]

theorem Holds.addString (h : s.Holds c vs) (text : String) :
    Holds c (s.addString c text) (vs ++ [.string text]) := by
  have hadd := h.strings.add text
  obtain ⟨hnull, hbool, hint, hdouble, hnone, -⟩ := h
  constructor <;> simp_all [ScalarShape.addString, Json.string?]

theorem Holds.addArray (h : s.Holds c vs) (items : List Json) :
    Holds c s (vs ++ [.array items]) := by
  obtain ⟨hnull, hbool, hint, hdouble, hnone, hstrings⟩ := h
  constructor <;> simp_all [List.filterMap_cons, Json.string?]

theorem Holds.addObject (h : s.Holds c vs) (members : List (String × Json)) :
    Holds c s (vs ++ [.object members]) := by
  obtain ⟨hnull, hbool, hint, hdouble, hnone, hstrings⟩ := h
  constructor <;> simp_all [List.filterMap_cons, Json.string?]

/-- The order of the values does not show in the nodes. -/
theorem Holds.nodes_eq (h : s.Holds c vs) (h' : s'.Holds c vs') (hp : vs.Perm vs') :
    s.nodes c = s'.nodes c := by
  have htexts : (vs.filterMap Json.string?).Perm (vs'.filterMap Json.string?) :=
    hp.filterMap _
  have hnode := h.strings.node_eq h'.strings htexts
  have hnull : s.null = s'.null := by
    rw [Bool.eq_iff_iff, h.null, h'.null, hp.mem_iff]
  have hbool : s.boolean = s'.boolean := by
    simp only [Bool.eq_iff_iff, h.boolean, h'.boolean, hp.mem_iff]
  have hint : s.integer = s'.integer := by
    simp only [Bool.eq_iff_iff, h.integer, h'.integer, hp.mem_iff]
  have hdouble : s.double = s'.double := by
    simp only [Bool.eq_iff_iff, h.double, h'.double, hp.mem_iff]
  have hnone : s.strings = none ↔ s'.strings = none := by
    rw [h.strings_eq_none, h'.strings_eq_none]
    exact ⟨fun he => List.nil_perm.1 (he ▸ htexts), fun he => List.perm_nil.1 (he ▸ htexts)⟩
  unfold ScalarShape.nodes
  rw [hnull, hbool, hint, hdouble]
  congr 1
  rcases hs : s.strings with _ | st <;> rcases hs' : s'.strings with _ | st'
  · rfl
  · simp [hs, hs'] at hnone
  · simp [hs, hs'] at hnone
  · simpa [hs, hs'] using hnode

end ScalarShape

namespace Shape

variable {c : InferenceConfig}

/-- What a shape says of the values at its position, with the arrays and the objects among them. -/
inductive Holds (c : InferenceConfig) : Shape → List Json → Prop
  | intro {s vs arrays objects} : vs.filterMap Json.array? = arrays →
      vs.filterMap Json.object? = objects → s.occurrences = vs.length → s.scalars.Holds c vs →
      (s.items = none ↔ arrays = []) → (∀ i, s.items = some i → Holds c i arrays.flatten) →
      s.records = objects.length → (Entries.keys s.properties).Nodup →
      (∀ k, k ∈ Entries.keys s.properties ↔ k ∈ Entries.keys objects.flatten) →
      (∀ k p, Entries.get? s.properties k = some p → Holds c p (Json.under k objects.flatten)) →
      Holds c s vs

/-- What the properties say of the members of all objects. -/
structure Filed (c : InferenceConfig) (ps : List (String × Shape)) (members : List (String × Json)) :
    Prop where
  nodup : (Entries.keys ps).Nodup
  mem_keys : ∀ k, k ∈ Entries.keys ps ↔ k ∈ Entries.keys members
  shapes : ∀ k p, Entries.get? ps k = some p → Holds c p (Json.under k members)

theorem holds_empty (c : InferenceConfig) : Holds c empty [] :=
  .intro rfl rfl rfl (ScalarShape.holds_empty c) (iff_of_true rfl rfl) nofun rfl .nil
    (fun _ => Iff.rfl) nofun

theorem Holds.filed {s : Shape} {vs : List Json} (h : Holds c s vs) :
    Filed c s.properties (vs.filterMap Json.object?).flatten := by
  obtain ⟨-, rfl, -, -, -, -, -, hn, hk, hp⟩ := h
  exact ⟨hn, hk, hp⟩

theorem Holds.itemsShape {s : Shape} {vs : List Json} (h : Holds c s vs) :
    Holds c s.itemsShape (vs.filterMap Json.array?).flatten := by
  obtain ⟨rfl, -, -, -, hnone, hi, -, -, -, -⟩ := h
  unfold Shape.itemsShape
  rcases he : s.items with _ | i
  · rw [hnone.1 he]
    exact holds_empty c
  · exact hi i he

namespace Filed

variable {ps : List (String × Shape)} {members : List (String × Json)}

theorem at_ (h : Filed c ps members) (k : String) : Holds c (Shape.at_ ps k) (Json.under k members) := by
  unfold Shape.at_
  rcases he : Entries.get? ps k with _ | p
  · have hk := mt (h.mem_keys k).2 (Entries.get?_eq_none_iff.1 he)
    rw [Json.under_eq_nil_iff.2 hk]
    exact holds_empty c
  · exact h.shapes k p he

theorem put (h : Filed c ps members) {key : String} {p : Shape} {v : Json}
    (hp : Holds c p (Json.under key members ++ [v])) :
    Filed c (Entries.put ps key p) (members ++ [(key, v)]) where
  nodup := Entries.nodup_keys_put h.nodup key p
  mem_keys k := by
    rw [Entries.mem_keys_put, h.mem_keys, Entries.keys, Entries.keys, List.map_append, List.mem_append]
    exact or_comm.trans (or_congr_right List.mem_singleton.symm)
  shapes k q hq := by
    rw [Json.under_append]
    rw [Entries.get?_put] at hq
    split_ifs at hq with hk
    · cases hq
      subst hk
      simpa [Json.under] using hp
    · simpa [Json.under, hk] using h.shapes k q hq

end Filed

/-! ## Folding in a value -/

section Step

variable {s : Shape} {vs : List Json}

theorem Holds.addScalar (h : Holds c s vs) {scalars : ScalarShape} {v : Json}
    (hs : scalars.Holds c (vs ++ [v])) (ha : v.array? = none) (ho : v.object? = none) :
    Holds c { s with occurrences := s.occurrences + 1, scalars := scalars } (vs ++ [v]) := by
  obtain ⟨harrays, hobjects, hocc, -, hnone, hi, hrec, hn, hk, hp⟩ := h
  exact .intro (by simp [harrays, ha]) (by simp [hobjects, ho]) (by simp [hocc]) hs hnone hi hrec hn
    hk hp

theorem Holds.addArray (h : Holds c s vs) {inner : Shape} {items : List Json}
    (hinner : Holds c inner ((vs.filterMap Json.array?).flatten ++ items)) :
    Holds c { s with occurrences := s.occurrences + 1, items := some inner }
      (vs ++ [.array items]) := by
  obtain ⟨rfl, hobjects, hocc, hs, -, -, hrec, hn, hk, hp⟩ := h
  have harrays : (vs ++ [Json.array items]).filterMap Json.array? =
      vs.filterMap Json.array? ++ [items] := by simp [Json.array?]
  refine .intro harrays (by simp [hobjects, Json.object?]) (by simp [hocc]) (hs.addArray items)
    (by simp) (fun i hi => ?_) hrec hn hk hp
  cases hi
  exact List.flatten_concat ▸ hinner

theorem Holds.addObject (h : Holds c s vs) {properties : List (String × Shape)}
    {members : List (String × Json)}
    (hps : Filed c properties ((vs.filterMap Json.object?).flatten ++ members)) :
    Holds c { s with
      occurrences := s.occurrences + 1, records := s.records + 1, properties := properties }
      (vs ++ [.object members]) := by
  obtain ⟨harrays, rfl, hocc, hs, hnone, hi, hrec, -, -, -⟩ := h
  have hobjects : (vs ++ [Json.object members]).filterMap Json.object? =
      vs.filterMap Json.object? ++ [members] := by simp [Json.object?]
  rw [← List.flatten_concat] at hps
  exact .intro (by simp [harrays, Json.array?]) hobjects (by simp [hocc]) (hs.addObject members)
    hnone hi (by simp [hrec]) hps.nodup hps.mem_keys hps.shapes

end Step

mutual

theorem addAt_holds : ∀ (v : Json) (depth : Nat) (s : Shape) (vs : List Json), Holds c s vs →
    (addAt c v depth s).1 = .ok () → Holds c (addAt c v depth s).2 (vs ++ [v])
  | v, depth, s, vs, h, ho => by
    by_cases hd : c.maxDepth < depth
    · rw [addAt, if_pos hd] at ho
      cases ho
    · obtain ⟨-, -, -, hs, -, -, -, -, -, -⟩ := id h
      cases v with
      | null =>
        rw [addAt, if_neg hd]
        exact h.addScalar hs.addNull rfl rfl
      | bool b =>
        rw [addAt, if_neg hd]
        exact h.addScalar (hs.addBool b) rfl rfl
      | number n =>
        rw [addAt, if_neg hd]
        exact h.addScalar (hs.addNumber n) rfl rfl
      | string text =>
        rw [addAt, if_neg hd]
        exact h.addScalar (hs.addString text) rfl rfl
      | array items =>
        rw [addAt, if_neg hd] at ho ⊢
        exact h.addArray (addItems_holds items (depth + 1) _ _ h.itemsShape ho)
      | object members =>
        rw [addAt, if_neg hd] at ho ⊢
        exact h.addObject (addMembers_filed members (depth + 1) _ _ h.filed ho)

theorem addItems_holds : ∀ (items : List Json) (depth : Nat) (s : Shape) (vs : List Json),
    Holds c s vs → (addItems c items depth s).1 = .ok () →
      Holds c (addItems c items depth s).2 (vs ++ items)
  | [], _, _, vs, h, _ => (List.append_nil vs).symm ▸ h
  | v :: rest, depth, s, vs, h, ho => by
    rcases hv : (addAt c v depth s).1 with e | _
    · rw [addItems_cons_error c v depth hv] at ho
      cases ho
    · rw [addItems_cons_ok c v depth hv] at ho ⊢
      rw [List.append_cons]
      exact addItems_holds rest depth _ _ (addAt_holds v depth s vs h hv) ho

theorem addMembers_filed : ∀ (members : List (String × Json)) (depth : Nat)
    (ps : List (String × Shape)) (before : List (String × Json)), Filed c ps before →
      (addMembers c members depth ps).1 = .ok () →
      Filed c (addMembers c members depth ps).2 (before ++ members)
  | [], _, _, before, h, _ => (List.append_nil before).symm ▸ h
  | (key, v) :: rest, depth, ps, before, h, ho => by
    rcases hv : (addAt c v depth (at_ ps key)).1 with e | _
    · rw [addMembers_cons_error c v depth hv] at ho
      cases ho
    · rw [addMembers_cons_ok c v depth hv] at ho ⊢
      have hput := h.put (addAt_holds v depth _ _ (h.at_ key) hv)
      rw [List.append_cons]
      exact addMembers_filed rest depth _ _ hput ho

end

theorem addAll_holds : ∀ (vs : List Json) (s s' : Shape) (before : List Json), Holds c s before →
    addAll c vs s = .ok s' → Holds c s' (before ++ vs)
  | [], s, s', before, h, ho => by
    cases ho
    exact (List.append_nil before).symm ▸ h
  | v :: rest, s, s', before, h, ho => by
    rcases hv : add c v s with ⟨_ | _, s₁⟩ <;> rw [addAll, hv] at ho
    · cases ho
    · have h₁ := addAt_holds v 0 s before h (congrArg Prod.fst hv)
      rw [show addAt c v 0 s = (.ok (), s₁) from hv] at h₁
      rw [List.append_cons]
      exact addAll_holds rest s₁ s' _ h₁ ho

/-! ## Nesting that is too deep -/

/-- What folding says of a value that is nested too deeply. -/
def tooDeep (c : InferenceConfig) : InferenceError := .maxDepthExceeded (c.maxDepth + 1) c.maxDepth

/-- What folding says of a value that reaches down to a level. -/
def outcome (c : InferenceConfig) (level : Nat) : Except InferenceError Unit :=
  if level ≤ c.maxDepth then .ok () else .error (tooDeep c)

theorem outcome_max (level h h' : Nat) : outcome c (level + max (h + 1) h') =
    (do outcome c (level + 1 + h); outcome c (level + h')) := by
  unfold outcome
  by_cases hv : level + 1 + h ≤ c.maxDepth
  · rw [if_pos hv]
    exact if_congr (by omega) rfl rfl
  · rw [if_neg hv, if_neg (by omega)]
    rfl

mutual

/-- The first level that is too deep is the one right below the last that is not. -/
theorem addAt_outcome : ∀ (v : Json) (depth : Nat) (s : Shape), depth ≤ c.maxDepth + 1 →
    (addAt c v depth s).1 = outcome c (depth + v.height)
  | v, depth, s, hle => by
    by_cases hd : c.maxDepth < depth
    · have hdepth : depth = c.maxDepth + 1 := Nat.le_antisymm hle hd
      rw [addAt, if_pos hd, outcome, if_neg (by omega), tooDeep, hdepth]
    · have hle' := Nat.not_lt.1 hd
      cases v with
      | array items =>
        rw [addAt, if_neg hd]
        exact addItems_outcome items depth _ hle'
      | object members =>
        rw [addAt, if_neg hd]
        exact addMembers_outcome members depth _ hle'
      | _ =>
        rw [addAt, if_neg hd]
        exact (if_pos hle').symm

theorem addItems_outcome : ∀ (items : List Json) (depth : Nat) (s : Shape), depth ≤ c.maxDepth →
    (addItems c items (depth + 1) s).1 = outcome c (depth + Json.heightAll items)
  | [], _, _, hle => (if_pos hle).symm
  | v :: rest, depth, s, hle => by
    have hv := addAt_outcome v (depth + 1) s (Nat.succ_le_succ hle)
    rw [Json.heightAll, outcome_max, ← hv]
    rcases ho : (addAt c v (depth + 1) s).1 with e | _
    · rw [addItems_cons_error c v _ ho]
      rfl
    · rw [addItems_cons_ok c v _ ho]
      exact addItems_outcome rest depth _ hle

theorem addMembers_outcome : ∀ (members : List (String × Json)) (depth : Nat)
    (ps : List (String × Shape)), depth ≤ c.maxDepth →
      (addMembers c members (depth + 1) ps).1 = outcome c (depth + Json.heightMembers members)
  | [], _, _, hle => (if_pos hle).symm
  | (key, v) :: rest, depth, ps, hle => by
    have hv := addAt_outcome v (depth + 1) (at_ ps key) (Nat.succ_le_succ hle)
    rw [Json.heightMembers, outcome_max, ← hv]
    rcases ho : (addAt c v (depth + 1) (at_ ps key)).1 with e | _
    · rw [addMembers_cons_error c v _ ho]
      rfl
    · rw [addMembers_cons_ok c v _ ho]
      exact addMembers_outcome rest depth _ hle

end

/-- Values are folded in just if all of them fit, and else the error is always the same. -/
theorem addAll_outcome (vs : List Json) (s : Shape) :
    (∃ s', addAll c vs s = .ok s' ∧ ∀ v ∈ vs, v.height ≤ c.maxDepth) ∨
      addAll c vs s = .error (tooDeep c) ∧ ∃ v ∈ vs, c.maxDepth < v.height := by
  induction vs generalizing s with
  | nil => exact .inl ⟨s, rfl, fun _ hv => absurd hv List.not_mem_nil⟩
  | cons v rest ih =>
    have hv : (add c v s).1 = outcome c (0 + v.height) := addAt_outcome v 0 s (Nat.zero_le _)
    rw [Nat.zero_add, outcome] at hv
    rcases hs : add c v s with ⟨_ | _, s₁⟩ <;> rw [hs] at hv <;> rw [addAll, hs]
    · split_ifs at hv with hle
      cases hv
      exact .inr ⟨rfl, v, List.mem_cons_self, Nat.lt_of_not_le hle⟩
    · split_ifs at hv with hle
      rcases ih s₁ with ⟨s', hs', hrest⟩ | ⟨hs', w, hw, hlt⟩
      · exact .inl ⟨s', hs', List.forall_mem_cons.2 ⟨hle, hrest⟩⟩
      · exact .inr ⟨hs', w, List.mem_cons_of_mem _ hw, hlt⟩

end Shape

end JsonTypes
