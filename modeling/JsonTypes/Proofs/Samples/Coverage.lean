import Mathlib.Tactic.Common
import JsonTypes.Samples.Shape

/-!
# What a shape remembers of the values folded in

A shape covers a value (`Covers`) if it has a place for each part of it. Folding in further
values, completely or up to a failure, takes no place away (`addAt_covers`), and a value whose
folding succeeds is covered (`covers_of_addAt_ok`).

That an object lacks a key shows only in numbers: the property has come up less often than there
were objects. No property comes up more often than that (`Counted`), since an object has each key
once, and one that was once behind stays behind, since every object counts at least as much as its
properties do.
-/

namespace JsonTypes

namespace StringShape

/-- The text is among the distinct ones, if these are told apart, and has the common format, if
there is one. -/
structure Covers (s : StringShape) (text : String) : Prop where
  mem_cases : s.tooManyCases = false → text ∈ s.cases
  format_ne : s.format ≠ .unset
  format_eq : ∀ f, s.format = .consistent f → Temporal.detectFormat text = some f

theorem covers_addCase {s : StringShape} {text : String} (other : String)
    (h : s.tooManyCases = false → text ∈ s.cases) :
    (s.addCase other).tooManyCases = false → text ∈ (s.addCase other).cases := by
  unfold addCase
  split_ifs with h₁ h₂
  · exact h
  · exact fun hc => List.mem_append_left _ (h hc)
  · exact fun hc => absurd hc (by simp)

theorem mem_addCase (s : StringShape) (text : String) :
    (s.addCase text).tooManyCases = false → text ∈ (s.addCase text).cases := by
  unfold addCase
  split_ifs with h₁ h₂
  · intro hc
    simpa [hc] using h₁
  · exact fun _ => List.mem_append_right _ List.mem_cons_self
  · exact fun hc => absurd hc (by simp)

theorem addCase_format (s : StringShape) (text : String) : (s.addCase text).format = s.format := by
  unfold addCase
  split_ifs <;> rfl

end StringShape

theorem FormatState.add_ne_unset (s : FormatState) (f : Option StringFormat) :
    s.add f ≠ .unset := by
  cases s <;> cases f <;> simp only [add] <;> try split_ifs
  all_goals simp

theorem FormatState.of_add_eq_consistent {s : FormatState} {d : Option StringFormat}
    {f : StringFormat} (h : s.add d = .consistent f) :
    d = some f ∧ (s = .unset ∨ s = .consistent f) := by
  cases s with
  | unset =>
    cases d with
    | none => simp [add] at h
    | some f' => simp_all [add]
  | consistent g =>
    cases d with
    | none => simp [add] at h
    | some f' =>
      simp only [add] at h
      split_ifs at h with hg
      cases h
      exact ⟨by rw [hg], .inr rfl⟩
  | mixed => simp [add] at h

namespace StringShape

theorem Covers.add {s : StringShape} {text : String} (h : s.Covers text) (c : InferenceConfig)
    (other : String) : (s.add c other).Covers text where
  mem_cases := covers_addCase other h.mem_cases
  format_ne := FormatState.add_ne_unset _ _
  format_eq f hf := by
    obtain ⟨-, hs⟩ := FormatState.of_add_eq_consistent hf
    rw [addCase_format] at hs
    rcases hs with hs | hs
    · exact absurd hs h.format_ne
    · exact h.format_eq f hs

theorem covers_add (c : InferenceConfig) (s : StringShape) (text : String) :
    (s.add c text).Covers text where
  mem_cases := mem_addCase s text
  format_ne := FormatState.add_ne_unset _ _
  format_eq f hf := by
    obtain ⟨hd, -⟩ := FormatState.of_add_eq_consistent hf
    split_ifs at hd
    exact hd

end StringShape

namespace ScalarShape

/-- There is a place for a value without parts. -/
def Covers (s : ScalarShape) : Json → Prop
  | .null => s.null = true
  | .bool _ => s.boolean = true
  | .number (.integer _) => s.integer = true
  | .number (.double _) => s.double = true
  | .string text => ∃ strings, s.strings = some strings ∧ strings.Covers text
  | _ => False

variable {s : ScalarShape} {w : Json}

theorem Covers.null (h : s.Covers w) : ScalarShape.Covers { s with null := true } w := by
  cases w with
  | number n => cases n <;> exact h
  | _ => first | exact h | rfl

theorem Covers.boolean (h : s.Covers w) : ScalarShape.Covers { s with boolean := true } w := by
  cases w with
  | number n => cases n <;> exact h
  | _ => first | exact h | rfl

theorem Covers.addNumber (h : s.Covers w) (n : Number) : (s.addNumber n).Covers w := by
  cases n <;> cases w with
  | number m => cases m <;> first | exact h | rfl
  | _ => exact h

theorem Covers.addString (h : s.Covers w) (c : InferenceConfig) (text : String) :
    (s.addString c text).Covers w := by
  cases w with
  | number n => cases n <;> exact h
  | string t =>
    obtain ⟨strings, hs, ht⟩ := h
    exact ⟨strings.add c text, by simp [ScalarShape.addString, hs], ht.add c text⟩
  | _ => exact h

theorem covers_addNumber (s : ScalarShape) (n : Number) :
    (s.addNumber n).Covers (.number n) := by
  cases n <;> rfl

theorem covers_addString (c : InferenceConfig) (s : ScalarShape) (text : String) :
    (s.addString c text).Covers (.string text) :=
  ⟨_, rfl, StringShape.covers_add c _ text⟩

end ScalarShape

namespace Shape

/-- The shape of the elements, empty before there was an array. -/
def itemsShape (s : Shape) : Shape := s.items.getD empty

/-- The shape under a key, empty before the key came up. -/
def at_ (ps : List (String × Shape)) (k : String) : Shape := (Entries.get? ps k).getD empty

theorem at_put (ps : List (String × Shape)) (key k : String) (s : Shape) :
    at_ (Entries.put ps key s) k = if key = k then s else at_ ps k := by
  unfold at_
  rw [Entries.get?_put]
  split_ifs <;> rfl

/-- There is a place for every part of a value. What an object lacks has come up less often than
there were objects. -/
inductive Covers : Shape → Json → Prop
  | scalar {s w} : s.scalars.Covers w → Covers s w
  | array {s xs} : s.items.isSome → (∀ x ∈ xs, Covers s.itemsShape x) → Covers s (.array xs)
  | object {s members} : 0 < s.records →
      (∀ k x, (k, x) ∈ members → Covers (at_ s.properties k) x) →
      (∀ k, k ∉ Entries.keys members → (at_ s.properties k).occurrences < s.records) →
      Covers s (.object members)

/-- No property has come up more often than there were objects. -/
inductive Counted : Shape → Prop
  | intro {s} : (∀ i, s.items = some i → Counted i) → (Entries.keys s.properties).Nodup →
      (∀ k p, Entries.get? s.properties k = some p → p.occurrences ≤ s.records) →
      (∀ k p, Entries.get? s.properties k = some p → Counted p) → Counted s

theorem not_covers_empty (w : Json) : ¬Covers empty w := by
  intro h
  cases h with
  | scalar h =>
    cases w with
    | number n => cases n <;> simp [ScalarShape.Covers, empty, ScalarShape.empty] at h
    | _ => simp [ScalarShape.Covers, empty, ScalarShape.empty] at h
  | array h _ => simp [empty] at h
  | object h _ _ => simp [empty] at h

theorem counted_empty : Counted empty :=
  .intro (fun _ h => by cases h) .nil (fun _ _ h => by cases h) fun _ _ h => by cases h

theorem Counted.itemsShape {s : Shape} (h : Counted s) : Counted s.itemsShape := by
  obtain ⟨hi, -, -, -⟩ := h
  unfold Shape.itemsShape
  rcases he : s.items with _ | i
  · exact counted_empty
  · exact hi i he

theorem Counted.at_ {s : Shape} (h : Counted s) (k : String) : Counted (at_ s.properties k) := by
  obtain ⟨-, -, -, hp⟩ := h
  unfold Shape.at_
  rcases he : Entries.get? s.properties k with _ | p
  · exact counted_empty
  · exact hp k p he

theorem Counted.occurrences_le {s : Shape} (h : Counted s) (k : String) :
    (Shape.at_ s.properties k).occurrences ≤ s.records := by
  obtain ⟨-, -, ho, -⟩ := h
  unfold Shape.at_
  rcases he : Entries.get? s.properties k with _ | p
  · exact Nat.zero_le _
  · exact ho k p he

/-! ## One position -/

section Update

variable {s : Shape} {w : Json} (n : Nat)

theorem Covers.update_scalars (h : Covers s w) {scalars : ScalarShape}
    (hs : s.scalars.Covers w → scalars.Covers w) :
    Covers { s with occurrences := n, scalars := scalars } w := by
  cases h with
  | scalar h => exact .scalar (hs h)
  | array hi hx => exact .array hi hx
  | object hr hp ha => exact .object hr hp ha

theorem Covers.update_items (h : Covers s w) {inner : Shape}
    (hi : ∀ x, Covers s.itemsShape x → Covers inner x) :
    Covers { s with occurrences := n, items := some inner } w := by
  cases h with
  | scalar h => exact .scalar h
  | array _ hx => exact .array rfl fun x hm => hi x (hx x hm)
  | object hr hp ha => exact .object hr hp ha

theorem Covers.update_properties (h : Covers s w) {properties : List (String × Shape)}
    (hp : ∀ k x, Covers (Shape.at_ s.properties k) x → Covers (Shape.at_ properties k) x)
    (ho : ∀ k, (Shape.at_ properties k).occurrences ≤ (Shape.at_ s.properties k).occurrences + 1) :
    Covers { s with occurrences := n, records := s.records + 1, properties := properties } w := by
  cases h with
  | scalar h => exact .scalar h
  | array hi hx => exact .array hi hx
  | object hr hm ha =>
    refine .object (Nat.succ_pos _) (fun k x hx => hp k x (hm k x hx)) fun k hk => ?_
    have := ho k
    have := ha k hk
    simp only
    omega

end Update

/-! ## Folding in a value -/

variable (c : InferenceConfig)

theorem occurrences_addAt_le (v : Json) (depth : Nat) (s : Shape) :
    (addAt c v depth s).2.occurrences ≤ s.occurrences + 1 := by
  rw [addAt]
  split_ifs
  · exact Nat.le_succ _
  · cases v <;> exact Nat.le_refl _

section Step

variable (v : Json) (depth : Nat)

theorem addItems_cons_ok {s : Shape} (h : (addAt c v depth s).1 = .ok ()) (rest : List Json) :
    addItems c (v :: rest) depth s = addItems c rest depth (addAt c v depth s).2 := by
  rcases hs : addAt c v depth s with ⟨outcome, s'⟩
  rw [hs] at h
  subst h
  simp only [addItems, hs]

theorem addItems_cons_error {s : Shape} {e : InferenceError}
    (h : (addAt c v depth s).1 = .error e) (rest : List Json) :
    addItems c (v :: rest) depth s = (.error e, (addAt c v depth s).2) := by
  rcases hs : addAt c v depth s with ⟨outcome, s'⟩
  rw [hs] at h
  subst h
  simp only [addItems, hs]

variable {ps : List (String × Shape)} {key : String}

theorem addMembers_cons_ok (h : (addAt c v depth (at_ ps key)).1 = .ok ())
    (rest : List (String × Json)) :
    addMembers c ((key, v) :: rest) depth ps =
      addMembers c rest depth (Entries.put ps key (addAt c v depth (at_ ps key)).2) := by
  unfold at_ at h ⊢
  rcases hs : addAt c v depth ((Entries.get? ps key).getD empty) with ⟨outcome, s'⟩
  rw [hs] at h
  subst h
  simp only [addMembers, hs]

theorem addMembers_cons_error {e : InferenceError}
    (h : (addAt c v depth (at_ ps key)).1 = .error e) (rest : List (String × Json)) :
    addMembers c ((key, v) :: rest) depth ps =
      (.error e, Entries.put ps key (addAt c v depth (at_ ps key)).2) := by
  unfold at_ at h ⊢
  rcases hs : addAt c v depth ((Entries.get? ps key).getD empty) with ⟨outcome, s'⟩
  rw [hs] at h
  subst h
  simp only [addMembers, hs]

end Step

/-- Keys that come up once each add at most one to a property, and nothing to the others. -/
theorem occurrences_addMembers_le : ∀ (members : List (String × Json)) (depth : Nat)
    (ps : List (String × Shape)) (k : String), (Entries.keys members).Nodup →
      (at_ (addMembers c members depth ps).2 k).occurrences ≤
        (at_ ps k).occurrences + if k ∈ Entries.keys members then 1 else 0
  | [], _, ps, k, _ => by simp [addMembers]
  | (key, v) :: rest, depth, ps, k, hn => by
    rw [Entries.keys_cons, List.nodup_cons] at hn
    obtain ⟨hkey, hrest⟩ := hn
    have hv := occurrences_addAt_le c v depth (at_ ps key)
    have ih := occurrences_addMembers_le rest depth
      (Entries.put ps key (addAt c v depth (at_ ps key)).2) k hrest
    rw [at_put] at ih
    rcases h : (addAt c v depth (at_ ps key)).1 with e | _
    · rw [addMembers_cons_error c v depth h, at_put]
      by_cases hk : key = k
      · subst hk
        simpa [Entries.keys_cons] using hv
      · simp [hk]
    · rw [addMembers_cons_ok c v depth h]
      by_cases hk : key = k
      · subst hk
        rw [if_pos rfl, if_neg hkey] at ih
        simpa [Entries.keys_cons] using Nat.le_trans ih hv
      · simpa [Entries.keys_cons, hk, Ne.symm hk] using ih

mutual

/-- Folding in a value leaves every value covered, even if it fails. -/
theorem addAt_covers : ∀ (v : Json) (depth : Nat) (s : Shape) (w : Json), v.KeysDistinct →
    Covers s w → Covers (addAt c v depth s).2 w
  | v, depth, s, w, hv, h => by
    by_cases hd : c.maxDepth < depth
    · rw [addAt, if_pos hd]
      exact h
    · cases v with
      | null =>
        rw [addAt, if_neg hd]
        exact h.update_scalars _ ScalarShape.Covers.null
      | bool b =>
        rw [addAt, if_neg hd]
        exact h.update_scalars _ ScalarShape.Covers.boolean
      | number n =>
        rw [addAt, if_neg hd]
        exact h.update_scalars _ fun hs => hs.addNumber n
      | string text =>
        rw [addAt, if_neg hd]
        exact h.update_scalars _ fun hs => hs.addString c text
      | array items =>
        rw [addAt, if_neg hd]
        exact h.update_items _ fun x hx => addItems_covers items (depth + 1) _ x hv hx
      | object members =>
        rw [addAt, if_neg hd]
        refine h.update_properties _
          (fun k x hx => addMembers_covers members (depth + 1) _ k x hv.2 hx) fun k => ?_
        have hk := occurrences_addMembers_le c members (depth + 1) s.properties k hv.1
        split_ifs at hk
        · exact hk
        · exact Nat.le_succ_of_le hk

theorem addItems_covers : ∀ (items : List Json) (depth : Nat) (s : Shape) (w : Json),
    Json.KeysDistinctAll items → Covers s w → Covers (addItems c items depth s).2 w
  | [], _, _, _, _, h => h
  | v :: rest, depth, s, w, hv, h => by
    have hw := addAt_covers v depth s w hv.1 h
    rcases ho : (addAt c v depth s).1 with e | _
    · rw [addItems_cons_error c v depth ho]
      exact hw
    · rw [addItems_cons_ok c v depth ho]
      exact addItems_covers rest depth _ w hv.2 hw

theorem addMembers_covers : ∀ (members : List (String × Json)) (depth : Nat)
    (ps : List (String × Shape)) (k : String) (w : Json), Json.KeysDistinctMembers members →
      Covers (at_ ps k) w → Covers (at_ (addMembers c members depth ps).2 k) w
  | [], _, _, _, _, _, h => h
  | (key, v) :: rest, depth, ps, k, w, hv, h => by
    have hw : Covers (at_ (Entries.put ps key (addAt c v depth (at_ ps key)).2) k) w := by
      rw [at_put]
      split_ifs with hk
      · exact addAt_covers v depth _ w hv.1 (hk ▸ h)
      · exact h
    rcases ho : (addAt c v depth (at_ ps key)).1 with e | _
    · rw [addMembers_cons_error c v depth ho]
      exact hw
    · rw [addMembers_cons_ok c v depth ho]
      exact addMembers_covers rest depth _ k w hv.2 hw

end

/-- An object counts as much as each of its properties does, also when the folding fails in it. -/
theorem Counted.record {s : Shape} (h : Counted s) {members : List (String × Json)} {depth : Nat}
    (hn : (Entries.keys members).Nodup)
    (hkeys : (Entries.keys (addMembers c members depth s.properties).2).Nodup)
    (hps : ∀ k, Counted (Shape.at_ (addMembers c members depth s.properties).2 k)) (n : Nat) :
    Counted { s with
      occurrences := n, records := s.records + 1,
      properties := (addMembers c members depth s.properties).2 } := by
  have hle := h.occurrences_le
  obtain ⟨hi, -, -, -⟩ := h
  refine .intro hi hkeys (fun k p hp => ?_) fun k p hp => ?_
  · have hk := occurrences_addMembers_le c members depth s.properties k hn
    have := hle k
    simp only [Shape.at_, hp, Option.getD_some] at hk this
    change p.occurrences ≤ s.records + 1
    split_ifs at hk <;> omega
  · have hk := hps k
    simp only [Shape.at_, hp, Option.getD_some] at hk
    exact hk

mutual

theorem addAt_counted : ∀ (v : Json) (depth : Nat) (s : Shape), v.KeysDistinct →
    Counted s → Counted (addAt c v depth s).2
  | v, depth, s, hv, h => by
    by_cases hd : c.maxDepth < depth
    · rw [addAt, if_pos hd]
      exact h
    · have hi := h.itemsShape
      have hs := h
      obtain ⟨hitems, hkeys, ho, hp⟩ := h
      cases v with
      | array items =>
        rw [addAt, if_neg hd]
        refine .intro (fun i he => ?_) hkeys ho hp
        cases he
        exact addItems_counted items (depth + 1) _ hv hi
      | object members =>
        rw [addAt, if_neg hd]
        obtain ⟨hn, hps⟩ := addMembers_counted members (depth + 1) s.properties hv.2 hkeys hs.at_
        exact hs.record c hv.1 hn hps _
      | _ =>
        rw [addAt, if_neg hd]
        exact .intro hitems hkeys ho hp

theorem addItems_counted : ∀ (items : List Json) (depth : Nat) (s : Shape),
    Json.KeysDistinctAll items → Counted s → Counted (addItems c items depth s).2
  | [], _, _, _, h => h
  | v :: rest, depth, s, hv, h => by
    have hs := addAt_counted v depth s hv.1 h
    rcases ho : (addAt c v depth s).1 with e | _
    · rw [addItems_cons_error c v depth ho]
      exact hs
    · rw [addItems_cons_ok c v depth ho]
      exact addItems_counted rest depth _ hv.2 hs

theorem addMembers_counted : ∀ (members : List (String × Json)) (depth : Nat)
    (ps : List (String × Shape)), Json.KeysDistinctMembers members → (Entries.keys ps).Nodup →
      (∀ k, Counted (at_ ps k)) → (Entries.keys (addMembers c members depth ps).2).Nodup ∧
        ∀ k, Counted (at_ (addMembers c members depth ps).2 k)
  | [], _, _, _, hn, h => ⟨hn, h⟩
  | (key, v) :: rest, depth, ps, hv, hn, h => by
    have hn' := Entries.nodup_keys_put hn key (addAt c v depth (at_ ps key)).2
    have h' : ∀ k, Counted (at_ (Entries.put ps key (addAt c v depth (at_ ps key)).2) k) := by
      intro k
      rw [at_put]
      split_ifs with hk
      · exact addAt_counted v depth _ hv.1 (h key)
      · exact h k
    rcases ho : (addAt c v depth (at_ ps key)).1 with e | _
    · rw [addMembers_cons_error c v depth ho]
      exact ⟨hn', h'⟩
    · rw [addMembers_cons_ok c v depth ho]
      exact addMembers_counted rest depth _ hv.2 hn' h'

end

/-- A property that no key of the object names has not come up more often through it. -/
theorem covers_object {s : Shape} (h : Counted s) {members : List (String × Json)} {depth : Nat}
    (hn : (Entries.keys members).Nodup)
    (hm : ∀ k x, (k, x) ∈ members →
      Covers (at_ (addMembers c members depth s.properties).2 k) x) (n : Nat) :
    Covers { s with
      occurrences := n, records := s.records + 1,
      properties := (addMembers c members depth s.properties).2 } (.object members) := by
  refine .object (Nat.succ_pos _) hm fun k hk => ?_
  have hle := occurrences_addMembers_le c members depth s.properties k hn
  rw [if_neg hk] at hle
  have := h.occurrences_le k
  simp only
  omega

mutual

theorem covers_of_addAt_ok : ∀ (v : Json) (depth : Nat) (s : Shape), v.KeysDistinct → Counted s →
    (addAt c v depth s).1 = .ok () → Covers (addAt c v depth s).2 v
  | v, depth, s, hv, h, ho => by
    by_cases hd : c.maxDepth < depth
    · rw [addAt, if_pos hd] at ho
      cases ho
    · cases v with
      | null =>
        rw [addAt, if_neg hd]
        exact .scalar rfl
      | bool b =>
        rw [addAt, if_neg hd]
        exact .scalar rfl
      | number n =>
        rw [addAt, if_neg hd]
        exact .scalar (ScalarShape.covers_addNumber _ n)
      | string text =>
        rw [addAt, if_neg hd]
        exact .scalar (ScalarShape.covers_addString c _ text)
      | array items =>
        rw [addAt, if_neg hd] at ho ⊢
        exact .array rfl (covers_of_addItems_ok items (depth + 1) _ hv h.itemsShape ho)
      | object members =>
        rw [addAt, if_neg hd] at ho ⊢
        exact covers_object c h hv.1
          (covers_of_addMembers_ok members (depth + 1) s.properties hv.1 hv.2 h.at_ ho) _

theorem covers_of_addItems_ok : ∀ (items : List Json) (depth : Nat) (s : Shape),
    Json.KeysDistinctAll items → Counted s → (addItems c items depth s).1 = .ok () →
      ∀ x ∈ items, Covers (addItems c items depth s).2 x
  | [], _, _, _, _, _ => nofun
  | v :: rest, depth, s, hv, h, ho => by
    rcases hs : (addAt c v depth s).1 with e | _
    · rw [addItems_cons_error c v depth hs] at ho
      cases ho
    · rw [addItems_cons_ok c v depth hs] at ho ⊢
      have hv' := covers_of_addAt_ok v depth s hv.1 h hs
      intro x hx
      rcases List.mem_cons.1 hx with rfl | hx
      · exact addItems_covers c rest depth _ x hv.2 hv'
      · exact covers_of_addItems_ok rest depth _ hv.2 (addAt_counted c v depth s hv.1 h) ho x hx

theorem covers_of_addMembers_ok : ∀ (members : List (String × Json)) (depth : Nat)
    (ps : List (String × Shape)), (Entries.keys members).Nodup →
      Json.KeysDistinctMembers members → (∀ k, Counted (at_ ps k)) →
      (addMembers c members depth ps).1 = .ok () → ∀ k x, (k, x) ∈ members →
        Covers (at_ (addMembers c members depth ps).2 k) x
  | [], _, _, _, _, _, _ => nofun
  | (key, v) :: rest, depth, ps, hn, hv, h, ho => by
    rcases hs : (addAt c v depth (at_ ps key)).1 with e | _
    · rw [addMembers_cons_error c v depth hs] at ho
      cases ho
    · rw [addMembers_cons_ok c v depth hs] at ho ⊢
      have hv' := covers_of_addAt_ok v depth _ hv.1 (h key) hs
      intro k x hx
      rcases List.mem_cons.1 hx with he | hx
      · cases he
        refine addMembers_covers c rest depth _ key v hv.2 ?_
        rw [at_put, if_pos rfl]
        exact hv'
      · refine covers_of_addMembers_ok rest depth _ (List.nodup_cons.1 hn).2 hv.2 (fun k => ?_) ho
          k x hx
        rw [at_put]
        split_ifs
        · exact addAt_counted c v depth _ hv.1 (h key)
        · exact h k

end

end Shape

end JsonTypes
