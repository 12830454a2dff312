/-!
# Entries in order of arrival

A list of entries with a key each, read as a map. Writing a key for the first time puts its entry
at the end; writing it again keeps its place and changes the value. So folding `put` over a list
keeps the first position and the last value of every key (`get?_put`), and the keys stay distinct
(`nodup_keys_put`).
-/

namespace JsonTypes

abbrev Entries (κ α : Type) := List (κ × α)

namespace Entries

variable {κ α : Type} [DecidableEq κ]

def get? : Entries κ α → κ → Option α
  | [], _ => none
  | (k, a) :: rest, key => if k = key then some a else get? rest key

def put : Entries κ α → κ → α → Entries κ α
  | [], key, a => [(key, a)]
  | (k, b) :: rest, key, a => if k = key then (k, a) :: rest else (k, b) :: put rest key a

def keys (es : Entries κ α) : List κ := es.map (·.1)

def hasKey (es : Entries κ α) (key : κ) : Bool := (es.get? key).isSome

/-- The entries that writing a list of pairs in turn leaves behind. -/
def ofList (pairs : List (κ × α)) : Entries κ α :=
  pairs.foldl (fun es p => put es p.1 p.2) []

omit [DecidableEq κ] in
theorem keys_cons (k : κ) (a : α) (es : Entries κ α) : keys ((k, a) :: es) = k :: keys es := rfl

theorem mem_keys_iff {es : Entries κ α} {key : κ} : key ∈ es.keys ↔ ∃ a, es.get? key = some a := by
  induction es with
  | nil => simp [keys, get?]
  | cons e rest ih =>
    obtain ⟨k, b⟩ := e
    by_cases h : k = key
    · simp [keys, get?, h]
    · simp only [keys, List.map_cons, List.mem_cons] at ih ⊢
      simp [get?, h, Ne.symm h, ih]

theorem get?_eq_none_iff {es : Entries κ α} {key : κ} : es.get? key = none ↔ key ∉ es.keys := by
  rw [mem_keys_iff, Option.eq_none_iff_forall_ne_some, not_exists]

theorem get?_eq_none_of_not_mem {es : Entries κ α} {key : κ} (h : key ∉ es.keys) :
    es.get? key = none :=
  get?_eq_none_iff.2 h

theorem hasKey_iff {es : Entries κ α} {key : κ} : es.hasKey key = true ↔ key ∈ es.keys := by
  rw [hasKey, Option.isSome_iff_exists, mem_keys_iff]

theorem mem_of_get? {es : Entries κ α} {key : κ} {a : α} (h : es.get? key = some a) :
    (key, a) ∈ es := by
  induction es with
  | nil => simp [get?] at h
  | cons e rest ih =>
    obtain ⟨k, b⟩ := e
    by_cases hk : k = key
    · simp [get?, hk] at h
      simp [hk, h]
    · simp only [get?, if_neg hk] at h
      exact List.mem_cons_of_mem _ (ih h)

theorem get?_of_mem {es : Entries κ α} (hn : es.keys.Nodup) {key : κ} {a : α}
    (h : (key, a) ∈ es) : es.get? key = some a := by
  induction es with
  | nil => simp at h
  | cons e rest ih =>
    obtain ⟨k, b⟩ := e
    obtain ⟨hk, hr⟩ := List.nodup_cons.1 hn
    rcases List.mem_cons.1 h with h | h
    · simp only [Prod.mk.injEq] at h
      simp [get?, h.1, h.2]
    · have hne : k ≠ key := fun e => hk (e ▸ List.mem_map.2 ⟨_, h, rfl⟩)
      simp [get?, hne, ih hr h]

theorem get?_append_single (es : Entries κ α) (key k : κ) (a : α) :
    get? (es ++ [(key, a)]) k = (es.get? k).or (if key = k then some a else none) := by
  induction es with
  | nil => simp [get?]
  | cons e rest ih =>
    obtain ⟨k', b⟩ := e
    by_cases h : k' = k <;> simp [get?, h, ih]

theorem get?_put (es : Entries κ α) (key k : κ) (a : α) :
    (es.put key a).get? k = if key = k then some a else es.get? k := by
  induction es with
  | nil => rfl
  | cons e rest ih =>
    obtain ⟨k', b⟩ := e
    by_cases h : k' = key
    · subst h
      by_cases h' : k' = k <;> simp [put, get?, h']
    · by_cases h' : k' = k
      · subst h'
        simp [put, get?, h, Ne.symm h]
      · simp [put, get?, h, h', ih]

theorem mem_keys_put (es : Entries κ α) (key k : κ) (a : α) :
    k ∈ (es.put key a).keys ↔ k = key ∨ k ∈ es.keys := by
  induction es with
  | nil => simp [put, keys]
  | cons e rest ih =>
    obtain ⟨k', b⟩ := e
    by_cases h : k' = key
    · subst h
      simp [put, keys]
    · simp only [keys, put, if_neg h, List.map_cons, List.mem_cons] at ih ⊢
      rw [ih]
      exact or_left_comm

theorem put_of_get?_eq_none {es : Entries κ α} {key : κ} (h : es.get? key = none) (a : α) :
    es.put key a = es ++ [(key, a)] := by
  induction es with
  | nil => rfl
  | cons e rest ih =>
    obtain ⟨k, b⟩ := e
    by_cases hk : k = key
    · simp [get?, hk] at h
    · rw [get?, if_neg hk] at h
      rw [put, if_neg hk, ih h, List.cons_append]

theorem mem_put {es : Entries κ α} {key : κ} {a : α} {e : κ × α} (h : e ∈ es.put key a) :
    e = (key, a) ∨ e ∈ es := by
  induction es with
  | nil => exact .inl (List.mem_singleton.1 h)
  | cons e' rest ih =>
    obtain ⟨k', b⟩ := e'
    by_cases hk : k' = key
    · subst hk
      simp only [put, if_pos, List.mem_cons] at h ⊢
      exact h.imp_right .inr
    · simp only [put, if_neg hk, List.mem_cons] at h ⊢
      rcases h with h | h
      · exact .inr (.inl h)
      · exact (ih h).imp_right .inr

theorem nodup_keys_put {es : Entries κ α} (h : es.keys.Nodup) (key : κ) (a : α) :
    (es.put key a).keys.Nodup := by
  induction es with
  | nil => simp [put, keys]
  | cons e rest ih =>
    obtain ⟨k', b⟩ := e
    have hr := List.nodup_cons.1 h
    by_cases hk : k' = key
    · subst hk
      simpa [put, keys] using h
    · simp only [put, if_neg hk, keys, List.map_cons, List.nodup_cons]
      refine ⟨fun hm => ?_, ih hr.2⟩
      rcases (mem_keys_put rest key k' a).1 hm with h' | h'
      · exact hk h'
      · exact hr.1 h'

/-! ## Writing in turn -/

section Fold

variable {ι : Type} {key : ι → κ} {value : ι → α}

theorem mem_keys_foldl_put {xs : List ι} {es : Entries κ α} {k : κ} :
    k ∈ keys (xs.foldl (fun es x => put es (key x) (value x)) es) ↔
      (∃ x ∈ xs, key x = k) ∨ k ∈ es.keys := by
  induction xs generalizing es with
  | nil => simp
  | cons x rest ih =>
    rw [List.foldl_cons, ih, mem_keys_put]
    constructor
    · rintro (⟨y, hy, hk⟩ | rfl | hk)
      · exact .inl ⟨y, List.mem_cons_of_mem _ hy, hk⟩
      · exact .inl ⟨x, List.mem_cons_self, rfl⟩
      · exact .inr hk
    · rintro (⟨y, hy, hk⟩ | hk)
      · rcases List.mem_cons.1 hy with rfl | hy
        · exact .inr (.inl hk.symm)
        · exact .inl ⟨y, hy, hk⟩
      · exact .inr (.inr hk)

theorem mem_foldl_put {xs : List ι} {es : Entries κ α} {e : κ × α}
    (h : e ∈ xs.foldl (fun es x => put es (key x) (value x)) es) :
    (∃ x ∈ xs, e = (key x, value x)) ∨ e ∈ es := by
  induction xs generalizing es with
  | nil => exact .inr h
  | cons x rest ih =>
    rcases ih h with ⟨y, hy, he⟩ | h
    · exact .inl ⟨y, List.mem_cons_of_mem _ hy, he⟩
    · rcases mem_put h with he | h
      · exact .inl ⟨x, List.mem_cons_self, he⟩
      · exact .inr h

theorem nodup_keys_foldl_put {xs : List ι} {es : Entries κ α} (h : es.keys.Nodup) :
    (keys (xs.foldl (fun es x => put es (key x) (value x)) es)).Nodup := by
  induction xs generalizing es with
  | nil => exact h
  | cons x rest ih => exact ih (nodup_keys_put h (key x) (value x))

/-- What is written under other keys does not show. -/
theorem get?_foldl_put_of_not_mem {xs : List ι} {es : Entries κ α} {k : κ}
    (h : ∀ x ∈ xs, key x ≠ k) :
    (xs.foldl (fun es x => put es (key x) (value x)) es).get? k = es.get? k := by
  induction xs generalizing es with
  | nil => rfl
  | cons x rest ih =>
    obtain ⟨hx, hrest⟩ := List.forall_mem_cons.1 h
    rw [List.foldl_cons, ih hrest, get?_put, if_neg hx]

/-- If all that is written under a key is one value, then that value is there. -/
theorem get?_foldl_put_of_mem {xs : List ι} {es : Entries κ α} {k : κ} {a : α}
    (hmem : ∃ x ∈ xs, key x = k) (h : ∀ x ∈ xs, key x = k → value x = a) :
    (xs.foldl (fun es x => put es (key x) (value x)) es).get? k = some a := by
  induction xs generalizing es with
  | nil => simp at hmem
  | cons x rest ih =>
    obtain ⟨hx, hrest⟩ := List.forall_mem_cons.1 h
    rw [List.foldl_cons]
    by_cases hlater : ∃ y ∈ rest, key y = k
    · exact ih hlater hrest
    · obtain ⟨y, hy, hk⟩ := hmem
      have hkey : key x = k := by
        rcases List.mem_cons.1 hy with rfl | hy
        · exact hk
        · exact absurd ⟨y, hy, hk⟩ hlater
      rw [get?_foldl_put_of_not_mem fun y hy hk => hlater ⟨y, hy, hk⟩, get?_put, if_pos hkey,
        hx hkey]

end Fold

/-! ## Entries that a function gives -/

section Tabulate

variable {names : List κ} {f g : κ → α}

/-- An entry for each name, with the value that a function has there. -/
def tabulate (names : List κ) (f : κ → α) : Entries κ α := names.map fun k => (k, f k)

omit [DecidableEq κ] in
theorem mem_tabulate {e : κ × α} : e ∈ tabulate names f ↔ e.1 ∈ names ∧ f e.1 = e.2 := by
  constructor
  · intro h
    obtain ⟨k, hk, rfl⟩ := List.mem_map.1 h
    exact ⟨hk, rfl⟩
  · rintro ⟨hk, he⟩
    exact List.mem_map.2 ⟨e.1, hk, Prod.ext rfl he⟩

omit [DecidableEq κ] in
theorem tabulate_congr (h : ∀ k ∈ names, f k = g k) : tabulate names f = tabulate names g :=
  List.map_congr_left fun k hk => congrArg (k, ·) (h k hk)

theorem get?_tabulate (names : List κ) (f : κ → α) (key : κ) :
    (tabulate names f).get? key = if key ∈ names then some (f key) else none := by
  induction names with
  | nil => rfl
  | cons k rest ih =>
    rw [tabulate, List.map_cons, get?]
    by_cases h : k = key
    · simp [h]
    · rw [if_neg h]
      refine ih.trans ?_
      simp [Ne.symm h]

theorem put_tabulate (hn : names.Nodup) (f : κ → α) (key : κ) (a : α) :
    (tabulate names f).put key a =
      tabulate (if key ∈ names then names else names ++ [key]) fun k =>
        if k = key then a else f k := by
  induction names with
  | nil => simp [tabulate, put]
  | cons k rest ih =>
    obtain ⟨hk, hrest⟩ := List.nodup_cons.1 hn
    rw [tabulate, List.map_cons, put]
    by_cases h : k = key
    · subst h
      have hothers : tabulate rest f = tabulate rest fun j => if j = k then a else f j :=
        tabulate_congr fun j hj => (if_neg fun e : j = k => hk (e ▸ hj)).symm
      rw [if_pos rfl, if_pos List.mem_cons_self, tabulate, List.map_cons, if_pos rfl]
      exact congrArg (_ :: ·) hothers
    · rw [if_neg h]
      refine (congrArg (_ :: ·) (ih hrest)).trans ?_
      by_cases hmem : key ∈ rest <;> simp [tabulate, hmem, h, Ne.symm h]

end Tabulate

end Entries

end JsonTypes
