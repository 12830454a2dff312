import Mathlib.Tactic.Common
import JsonTypes.Schema.Address

/-!
# Addresses that mean a synthetic document

The address of a synthetic document is a relative path of one name, so it can also be written out.
It is meant by exactly those texts that are no URL and whose dot segments leave that one name
(`spells_iff`): nothing that is read as a URL is printed without a colon, and nothing else than one
name without a slash behind it is printed without a slash.
-/

namespace JsonTypes

namespace Address

open Url

theorem colon_mem_renderChars (u : Url) : ':' ∈ u.renderChars := by
  simp [renderChars]

section Name

variable {name : List Char} (hne : name ≠ []) (hslash : '/' ∉ name)

include hne hslash

/-- A path comes down to one name if it is relative and its segments leave that name. -/
theorem removeDotSegments_eq_iff {path : List Char} :
    removeDotSegments path = name ↔ path.head? ≠ some '/' ∧ isDirectoryPath path = false ∧
      walk false (Text.splitOn '/' path) (0, []) = (0, [name]) := by
  unfold removeDotSegments
  by_cases habsolute : path.head? = some '/'
  · refine ⟨fun h => absurd ?_ hslash, fun h => absurd habsolute h.1⟩
    rw [← h]
    simp [habsolute]
  rcases hwalk : walk false (Text.splitOn '/' path) (0, []) with ⟨_ | parents, names⟩
  · rcases names with _ | ⟨first, _ | ⟨second, rest⟩⟩
    · simp [habsolute, hwalk, Ne.symm hne]
    · rcases hdirectory : isDirectoryPath path
      · simp [habsolute, hwalk, List.intercalate]
      · refine ⟨fun h => absurd ?_ hslash, nofun⟩
        rw [← h]
        simp [habsolute, hwalk]
    · refine ⟨fun h => absurd ?_ hslash, nofun⟩
      rw [← h]
      simp [habsolute, hwalk, List.intercalate]
  · refine ⟨fun h => absurd ?_ hslash, nofun⟩
    rw [← h]
    simp [habsolute, hwalk, List.replicate_succ]

theorem normalize_eq_iff (hcolon : ':' ∉ name) {cs : List Char} :
    normalize cs = name ↔ parse? (String.ofList (Text.trim cs)) = none ∧
      (Text.trim cs).head? ≠ some '/' ∧ isDirectoryPath (Text.trim cs) = false ∧
      walk false (Text.splitOn '/' (Text.trim cs)) (0, []) = (0, [name]) := by
  rw [← removeDotSegments_eq_iff hne hslash]
  unfold normalize
  rcases hurl : parse? (String.ofList (Text.trim cs)) with _ | url
  · rcases htrim : Text.trim cs with _ | ⟨c, rest⟩
    · simp [removeDotSegments, Text.splitOn, walk, List.intercalate]
    · rw [htrim] at hurl
      simp only [List.isEmpty_cons, Bool.false_eq_true, if_false, hurl, true_and]
  · simp only [hurl, reduceCtorEq, false_and, iff_false]
    split_ifs
    · exact Ne.symm hne
    · exact fun h => hcolon (h ▸ colon_mem_renderChars url)

end Name

/-- The text, without its fragment, is a relative path that leads to the synthetic document with
this number and nowhere else. -/
def Spells (n : Nat) (raw : String) : Prop :=
  let path := Text.trim (splitFragment (Text.trim raw.toList)).1
  parse? (String.ofList path) = none ∧ path.head? ≠ some '/' ∧ isDirectoryPath path = false ∧
    walk false (Text.splitOn '/' path) (0, []) = (0, [(DocumentId.synthetic n).text.toList])

instance (n : Nat) (raw : String) : Decidable (Spells n raw) := by
  unfold Spells
  infer_instance

/-! ## Synthetic documents -/

theorem toList_synthetic (n : Nat) :
    (DocumentId.synthetic n).text.toList = '-' :: Nat.toDigits 10 n := by
  simp [DocumentId.synthetic]

theorem not_mem_synthetic {c : Char} (hdash : c ≠ '-') (hdigit : c.isDigit = false) (n : Nat) :
    c ∉ (DocumentId.synthetic n).text.toList := by
  rw [toList_synthetic]
  intro h
  rcases List.mem_cons.1 h with h | h
  · exact hdash h
  · rw [Nat.isDigit_of_mem_toDigits (by decide : 0 < 10) (by decide) h] at hdigit
    cases hdigit

theorem synthetic_inj {m n : Nat} : DocumentId.synthetic m = .synthetic n ↔ m = n := by
  refine ⟨fun h => ?_, fun h => h ▸ rfl⟩
  have hdigits := congrArg (fun d => d.text.toList) h
  simp only [toList_synthetic, List.cons.injEq, true_and] at hdigits
  have hnumber := congrArg (Nat.ofDigitChars 10 · 0) hdigits
  simpa [Nat.ofDigitChars_toDigits] using hnumber

theorem spells_iff {n : Nat} {raw : String} :
    (SchemaUri.parse raw).document = .synthetic n ↔ Spells n raw := by
  have hne : (DocumentId.synthetic n).text.toList ≠ [] := by
    rw [toList_synthetic]
    exact List.cons_ne_nil _ _
  rw [Spells, ← normalize_eq_iff hne (not_mem_synthetic (by decide) (by decide) n)
    (not_mem_synthetic (by decide) (by decide) n)]
  unfold SchemaUri.parse DocumentId.ofChars
  constructor
  · intro h
    simpa using congrArg (fun d => d.text.toList) h
  · intro h
    simp [h]

/-- Only an address without text for its document is empty, and no synthetic one is. -/
theorem isEmpty_synthetic (n : Nat) : (DocumentId.synthetic n).isEmpty = false := by
  have hlength := congrArg List.length (toList_synthetic n)
  rcases h : (DocumentId.synthetic n).isEmpty with _ | _
  · rfl
  · rw [DocumentId.isEmpty, String.isEmpty_iff] at h
    rw [h] at hlength
    simp at hlength

end Address

end JsonTypes
