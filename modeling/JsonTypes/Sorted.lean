import JsonTypes.Entries

/-!
# Sorted sets and maps

Finite sets and maps as strictly increasing lists. One list represents each set, so equality of
the lists is equality of the sets. Keys must be ordered in a line (`KeyOrder`).
-/

namespace JsonTypes

/-- A strict order in which keys are equal if neither is less. -/
class KeyOrder (κ : Type) [LT κ] : Prop where
  trans {a b c : κ} : a < b → b < c → a < c
  eq_of_not_lt {a b : κ} : ¬a < b → ¬b < a → a = b

instance : KeyOrder Nat :=
  ⟨Nat.lt_trans, fun h h' => Nat.le_antisymm (Nat.not_lt.1 h') (Nat.not_lt.1 h)⟩

instance : KeyOrder String :=
  ⟨String.lt_trans, fun h h' => String.le_antisymm (String.not_lt.1 h') (String.not_lt.1 h)⟩

section Place

variable {α κ : Type} [LT κ] [DecidableEq κ] [DecidableLT κ]

/-- Puts an item at the place of its key, instead of an item that has the key already. -/
def place (key : α → κ) (a : α) : List α → List α
  | [] => [a]
  | b :: rest =>
    if key a < key b then a :: b :: rest
    else if key a = key b then a :: rest
    else b :: place key a rest

theorem mem_place {key : α → κ} {a x : α} :
    ∀ {xs : List α}, x ∈ place key a xs → x = a ∨ x ∈ xs
  | [], h => by simpa [place] using h
  | b :: rest, h => by
    simp only [place] at h
    split at h
    · simpa using h
    · split at h
      · simp only [List.mem_cons] at h ⊢
        exact h.imp_right .inr
      · simp only [List.mem_cons] at h ⊢
        rcases h with h | h
        · exact .inr (.inl h)
        · exact (mem_place h).imp_right .inr

theorem mem_place_self {key : α → κ} {a : α} : ∀ xs : List α, a ∈ place key a xs
  | [] => by simp [place]
  | b :: rest => by
    have ih : a ∈ place key a rest := mem_place_self rest
    simp only [place]
    split
    · exact List.mem_cons_self
    · split
      · exact List.mem_cons_self
      · exact List.mem_cons_of_mem _ ih

theorem mem_place_of_mem {a x : κ} : ∀ {xs : List κ}, x ∈ xs → x ∈ place (fun y => y) a xs
  | b :: rest, h => by
    simp only [place]
    split
    · exact List.mem_cons_of_mem _ h
    · split
      · rename_i hab
        rw [hab]
        exact h
      · rcases List.mem_cons.1 h with rfl | h
        · exact List.mem_cons_self
        · exact List.mem_cons_of_mem _ (mem_place_of_mem h)

theorem find?_place {β : Type} (key k : κ) (a : β) : ∀ xs : List (κ × β),
    (place (·.1) (key, a) xs).find? (fun e => decide (e.1 = k)) =
      if key = k then some (key, a) else xs.find? (fun e => decide (e.1 = k))
  | [] => by by_cases h : key = k <;> simp [place, h]
  | (k', b) :: rest => by
    have ih := find?_place key k a rest
    simp only [place]
    split
    · by_cases h : key = k <;> simp [h]
    · split
      · rename_i hk
        by_cases h : key = k
        · simp [h]
        · simp [h, ← hk]
      · rename_i hk
        by_cases h : key = k
        · subst h
          simp [ih, Ne.symm hk]
        · by_cases h' : k' = k <;> simp [h, h', ih]

variable [KeyOrder κ]

theorem pairwise_place {key : α → κ} {a : α} {xs : List α}
    (h : xs.Pairwise (fun x y => key x < key y)) :
    (place key a xs).Pairwise (fun x y => key x < key y) := by
  induction xs with
  | nil => simp [place]
  | cons b rest ih =>
    obtain ⟨hb, hr⟩ := List.pairwise_cons.1 h
    simp only [place]
    split
    · rename_i hab
      refine List.Pairwise.cons ?_ h
      intro y hy
      rcases List.mem_cons.1 hy with rfl | hy
      · exact hab
      · exact KeyOrder.trans hab (hb y hy)
    · rename_i hab
      split
      · rename_i heq
        refine List.Pairwise.cons ?_ hr
        intro y hy
        rw [heq]
        exact hb y hy
      · rename_i hne
        refine List.Pairwise.cons ?_ (ih hr)
        intro y hy
        rcases mem_place hy with rfl | hy
        · by_cases hlt : key b < key y
          · exact hlt
          · exact absurd (KeyOrder.eq_of_not_lt hab hlt) hne
        · exact hb y hy

omit [DecidableEq κ] [DecidableLT κ] in
/-- Lists in increasing order are equal if they have the same items. -/
theorem eq_of_mem_iff [Std.Irrefl fun a b : κ => a < b] (key : α → κ) {xs ys : List α}
    (hx : xs.Pairwise (fun x y => key x < key y)) (hy : ys.Pairwise (fun x y => key x < key y))
    (h : ∀ x, x ∈ xs ↔ x ∈ ys) : xs = ys := by
  have hirrefl : ∀ x, ¬key x < key x := fun x => Std.Irrefl.irrefl (key x)
  have hnodup : ∀ {zs : List α}, zs.Pairwise (fun x y => key x < key y) → zs.Nodup := fun hz =>
    hz.imp fun {x y} (hlt : key x < key y) (he : x = y) => hirrefl y (he ▸ hlt)
  have hperm : xs.Perm ys := (List.perm_ext_iff_of_nodup (hnodup hx) (hnodup hy)).2 h
  exact hperm.eq_of_pairwise
    (fun x y _ _ hxy hyx => absurd (KeyOrder.trans hxy hyx) (hirrefl x)) hx hy

end Place

/-- A finite set, listed in increasing order. -/
structure SortedSet (α : Type) [LT α] where
  toList : List α
  sorted : toList.Pairwise (· < ·)
deriving DecidableEq

namespace SortedSet

variable {α : Type} [LT α] [DecidableEq α] [DecidableLT α] [KeyOrder α]

def empty : SortedSet α := ⟨[], .nil⟩

def insert (s : SortedSet α) (a : α) : SortedSet α :=
  ⟨place (fun x => x) a s.toList, pairwise_place s.sorted⟩

def ofList (xs : List α) : SortedSet α :=
  xs.foldl insert empty

theorem mem_insert {s : SortedSet α} {a x : α} :
    x ∈ (s.insert a).toList ↔ x = a ∨ x ∈ s.toList := by
  refine ⟨mem_place, fun h => ?_⟩
  rcases h with rfl | h
  · exact mem_place_self _
  · exact mem_place_of_mem h

theorem mem_foldl_insert {x : α} : ∀ {xs : List α} {s : SortedSet α},
    x ∈ (xs.foldl insert s).toList ↔ x ∈ xs ∨ x ∈ s.toList
  | [], s => by simp
  | a :: rest, s => by
    rw [List.foldl_cons, mem_foldl_insert, mem_insert, List.mem_cons, or_assoc]
    exact or_left_comm

theorem mem_ofList {xs : List α} {x : α} : x ∈ (ofList xs).toList ↔ x ∈ xs := by
  simp [ofList, mem_foldl_insert, empty]

section Extensionality

variable [Std.Irrefl fun a b : α => a < b]

omit [DecidableEq α] [DecidableLT α] in
/-- Which items a set has is all that it says. -/
theorem ext_mem {s s' : SortedSet α} (h : ∀ x, x ∈ s.toList ↔ x ∈ s'.toList) : s = s' := by
  obtain ⟨xs, hx⟩ := s
  obtain ⟨ys, hy⟩ := s'
  cases eq_of_mem_iff (fun x => x) hx hy h
  rfl

theorem ofList_congr {xs ys : List α} (h : ∀ x, x ∈ xs ↔ x ∈ ys) : ofList xs = ofList ys :=
  ext_mem fun x => by rw [mem_ofList, mem_ofList, h]

theorem ofList_toList (s : SortedSet α) : ofList s.toList = s :=
  ext_mem fun _ => mem_ofList

end Extensionality

end SortedSet

/-- A finite map, listed by increasing key. -/
structure SortedMap (κ α : Type) [LT κ] where
  toList : List (κ × α)
  sorted : toList.Pairwise (fun x y => x.1 < y.1)
deriving DecidableEq

namespace SortedMap

variable {κ α : Type} [LT κ] [DecidableEq κ] [DecidableLT κ] [KeyOrder κ]

def empty : SortedMap κ α := ⟨[], .nil⟩

def isEmpty (m : SortedMap κ α) : Bool := m.toList.isEmpty

def get? (m : SortedMap κ α) (key : κ) : Option α :=
  (m.toList.find? (fun e => decide (e.1 = key))).map (·.2)

def insert (m : SortedMap κ α) (key : κ) (a : α) : SortedMap κ α :=
  ⟨place (·.1) (key, a) m.toList, pairwise_place m.sorted⟩

def ofList (es : List (κ × α)) : SortedMap κ α :=
  es.foldl (fun m e => m.insert e.1 e.2) empty

/-- All entries of both maps; the second map wins where both have a key. -/
def union (m n : SortedMap κ α) : SortedMap κ α :=
  n.toList.foldl (fun m e => m.insert e.1 e.2) m

theorem get?_insert (m : SortedMap κ α) (key k : κ) (a : α) :
    (m.insert key a).get? k = if key = k then some a else m.get? k := by
  rw [get?, insert, find?_place]
  by_cases h : key = k <;> simp [h, get?]

theorem mem_foldl_insert {x : κ × α} : ∀ {es : List (κ × α)} {m : SortedMap κ α},
    x ∈ (es.foldl (fun m e => m.insert e.1 e.2) m).toList → x ∈ es ∨ x ∈ m.toList
  | [], m, h => .inr h
  | e :: rest, m, h => by
    rw [List.foldl_cons] at h
    rcases mem_foldl_insert h with h | h
    · exact .inl (List.mem_cons_of_mem _ h)
    · rcases mem_place h with rfl | h
      · exact .inl List.mem_cons_self
      · exact .inr h

theorem mem_of_mem_ofList {es : List (κ × α)} {x : κ × α} (h : x ∈ (ofList es).toList) :
    x ∈ es := by
  rcases mem_foldl_insert h with h | h
  · exact h
  · simp [empty] at h

theorem get?_foldl_insert {es : List (κ × α)} (h : (es.map (·.1)).Nodup) (m : SortedMap κ α)
    (k : κ) : (es.foldl (fun m e => m.insert e.1 e.2) m).get? k =
      (Entries.get? es k).or (m.get? k) := by
  induction es generalizing m with
  | nil => simp [Entries.get?]
  | cons e rest ih =>
    obtain ⟨k', a⟩ := e
    obtain ⟨hk', hr⟩ := List.nodup_cons.1 h
    rw [List.foldl_cons, ih hr, get?_insert]
    by_cases hk : k' = k
    · subst hk
      simp [Entries.get?, Entries.get?_eq_none_of_not_mem hk']
    · simp [Entries.get?, hk]

/-- A map made from entries with distinct keys has those entries. -/
theorem get?_ofList {es : List (κ × α)} (h : (es.map (·.1)).Nodup) (k : κ) :
    (ofList es).get? k = Entries.get? es k := by
  rw [ofList, get?_foldl_insert h]
  simp [empty, get?]

omit [DecidableEq κ] [DecidableLT κ] [KeyOrder κ] in
theorem isEmpty_iff {m : SortedMap κ α} : m.isEmpty = true ↔ m = .empty := by
  obtain ⟨es, hsorted⟩ := m
  cases es <;> simp [isEmpty, empty]

section Extensionality

variable [Std.Irrefl fun a b : κ => a < b]

omit [DecidableEq κ] [DecidableLT κ] [KeyOrder κ] in
theorem nodup_keys (m : SortedMap κ α) : (Entries.keys m.toList).Nodup :=
  List.pairwise_map.2 (m.sorted.imp fun {x y} (hlt : x.1 < y.1) (he : x.1 = y.1) =>
    Std.Irrefl.irrefl y.1 (he ▸ hlt))

omit [DecidableLT κ] [KeyOrder κ] [Std.Irrefl fun a b : κ => a < b] in
theorem get?_toList (m : SortedMap κ α) (key : κ) : Entries.get? m.toList key = m.get? key := by
  rw [get?]
  induction m.toList with
  | nil => rfl
  | cons e rest ih => by_cases he : e.1 = key <;> simp [Entries.get?, he, ih]

omit [DecidableLT κ] [KeyOrder κ] in
theorem mem_toList_iff {m : SortedMap κ α} {e : κ × α} :
    e ∈ m.toList ↔ m.get? e.1 = some e.2 := by
  rw [← get?_toList]
  exact ⟨Entries.get?_of_mem m.nodup_keys, Entries.mem_of_get?⟩

omit [DecidableLT κ] in
/-- What a map has for each key is all that it says. -/
theorem ext_get? {m m' : SortedMap κ α} (h : ∀ k, m.get? k = m'.get? k) : m = m' := by
  have hmem : ∀ e, e ∈ m.toList ↔ e ∈ m'.toList := fun e => by
    rw [mem_toList_iff, mem_toList_iff, h]
  obtain ⟨es, hs⟩ := m
  obtain ⟨es', hs'⟩ := m'
  cases eq_of_mem_iff (·.1) hs hs' hmem
  rfl

theorem ofList_toList (m : SortedMap κ α) : ofList m.toList = m :=
  ext_get? fun key => (get?_ofList m.nodup_keys key).trans (m.get?_toList key)

/-! ### Unions -/

theorem get?_union (m n : SortedMap κ α) (key : κ) :
    (m.union n).get? key = (n.get? key).or (m.get? key) := by
  rw [union, get?_foldl_insert n.nodup_keys, get?_toList]

/-- Entries that a map was made from may as well be inserted one by one. -/
theorem union_ofList (m : SortedMap κ α) (es : List (κ × α)) :
    m.union (ofList es) = es.foldl (fun m e => m.insert e.1 e.2) m := by
  have hget : ∀ (es : List (κ × α)) (m : SortedMap κ α) (key : κ),
      (es.foldl (fun m e => m.insert e.1 e.2) m).get? key =
        ((ofList es).get? key).or (m.get? key) := by
    intro es
    induction es with
    | nil => exact fun _ _ => rfl
    | cons e rest ih =>
      intro m key
      rw [ofList, List.foldl_cons, List.foldl_cons, ih, ih (empty.insert e.1 e.2), Option.or_assoc,
        get?_insert, get?_insert]
      by_cases h : e.1 = key <;> simp [h, empty, get?]
  exact ext_get? fun key => (get?_union m _ key).trans (hget es m key).symm

theorem union_eq_empty_iff {m n : SortedMap κ α} : m.union n = empty ↔ m = empty ∧ n = empty := by
  refine ⟨fun h => ?_, fun h => by rw [h.1, h.2]; rfl⟩
  have hnone : ∀ key, n.get? key = none ∧ m.get? key = none := fun key => by
    rw [← Option.or_eq_none_iff, ← get?_union, h]
    rfl
  exact ⟨ext_get? fun key => (hnone key).2, ext_get? fun key => (hnone key).1⟩

theorem union_assoc (m n p : SortedMap κ α) : (m.union n).union p = m.union (n.union p) := by
  refine ext_get? fun key => ?_
  simp only [get?_union, Option.or_assoc]

theorem union_union_self (m n : SortedMap κ α) : (m.union n).union n = m.union n := by
  refine ext_get? fun key => ?_
  rw [get?_union, get?_union, ← Option.or_assoc, Option.or_self]

end Extensionality

end SortedMap

end JsonTypes
