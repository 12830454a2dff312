/-!
# Parts between separators

A list splits at every separator. There is always at least one part, and joining the parts with
the separator gives the list back (`intercalate_splitOn`). The library splits in the same way
(`splitOn_eq`).
-/

namespace JsonTypes.Text

variable {α : Type} [DecidableEq α]

def splitOn (sep : α) : List α → List (List α)
  | [] => [[]]
  | a :: as =>
    match splitOn sep as with
    | [] => [[a]]
    | part :: parts => if a = sep then [] :: part :: parts else (a :: part) :: parts

theorem splitOn_ne_nil (sep : α) : ∀ as : List α, splitOn sep as ≠ []
  | [] => by simp [splitOn]
  | a :: as => by
    rw [splitOn]
    split
    · simp
    · split <;> simp

theorem intercalate_splitOn (sep : α) (as : List α) : [sep].intercalate (splitOn sep as) = as := by
  induction as with
  | nil => rfl
  | cons a as ih =>
    rw [splitOn]
    split
    · exact absurd ‹_› (splitOn_ne_nil sep as)
    · rename_i part parts h
      rw [h] at ih
      split
      · subst a
        simp [← ih, List.intercalate, List.intersperse]
      · cases parts <;> simp_all [List.intercalate, List.intersperse]

theorem splitOn_eq (sep : α) (as : List α) : splitOn sep as = as.splitOn sep := by
  induction as with
  | nil => rfl
  | cons a as ih =>
    rw [splitOn, List.splitOn_cons_eq_if_modifyHead, ih]
    split
    · exact absurd ‹_› (List.splitOn_ne_nil sep as)
    · simp [‹as.splitOn sep = _›]

theorem not_mem_of_mem_splitOn {sep : α} {as part : List α} (h : part ∈ splitOn sep as) :
    sep ∉ part := by
  induction as generalizing part with
  | nil =>
    obtain rfl := List.mem_singleton.1 h
    exact List.not_mem_nil
  | cons a as ih =>
    rw [splitOn] at h
    split at h
    · exact absurd ‹_› (splitOn_ne_nil sep as)
    · rename_i first rest hparts
      rw [hparts] at ih
      split at h
      · rcases List.mem_cons.1 h with rfl | h
        · exact List.not_mem_nil
        · exact ih h
      · rcases List.mem_cons.1 h with rfl | h
        · exact List.not_mem_cons_of_ne_of_not_mem (Ne.symm ‹_›) (ih List.mem_cons_self)
        · exact ih (List.mem_cons_of_mem _ h)

/-- The parts hold all that is not a separator. -/
theorem flatten_splitOn (sep : α) (as : List α) :
    (splitOn sep as).flatten = as.filter (· ≠ sep) := by
  induction as with
  | nil => rfl
  | cons a as ih =>
    rw [splitOn]
    split
    · exact absurd ‹_› (splitOn_ne_nil sep as)
    · rename_i hparts
      rw [hparts] at ih
      split
      · rw [List.filter_cons_of_neg (by simp [*]), ← ih]
        rfl
      · rw [List.filter_cons_of_pos (by simp [*]), ← ih]
        rfl

theorem mem_of_mem_splitOn {sep a : α} {as part : List α} (hpart : part ∈ splitOn sep as)
    (ha : a ∈ part) : a ∈ as := by
  have hmem := List.mem_flatten.2 ⟨part, hpart, ha⟩
  rw [flatten_splitOn] at hmem
  exact (List.mem_filter.1 hmem).1

end JsonTypes.Text
