import JsonTypes.Proofs.Graph.History

/-!
# Attributes that come in parts

Merging sets of attributes is associative, and a set that is merged once more changes nothing. So
what a type has does not tell in how many calls it came: it is what one call with all the sets in a
row would have left (`Attributes.inARow`), whatever else is done to the graph in between
(`Attributes.merge_grouped`).
-/

namespace JsonTypes

namespace Attributes

/-! ## Merging -/

section Descriptions

variable {texts before : List String} {text : String}

theorem mem_foldl_addNew : text ∈ texts.foldl addNew before ↔ text ∈ before ∨ text ∈ texts := by
  rw [foldl_addNew, List.mem_append, List.mem_eraseDups, List.mem_filter, decide_eq_true_eq]
  tauto

theorem foldl_addNew_of_subset (h : ∀ text ∈ texts, text ∈ before) :
    texts.foldl addNew before = before := by
  have hnone : texts.filter (· ∉ before) = [] := List.filter_eq_nil_iff.2 (by simpa using h)
  rw [foldl_addNew, hnone, List.eraseDups_nil, List.append_nil]

/-- It makes no difference whether texts are put together before they are added. -/
theorem foldl_addNew_foldl (texts more before : List String) :
    (more.foldl addNew texts).foldl addNew before =
      more.foldl addNew (texts.foldl addNew before) := by
  induction more generalizing texts with
  | nil => rfl
  | cons text rest ih =>
    have hone : (addNew texts text).foldl addNew before =
        addNew (texts.foldl addNew before) text := by
      by_cases h : text ∈ texts
      · rw [addNew, addNew, if_pos h, if_pos (mem_foldl_addNew.2 (.inr h))]
      · rw [addNew, if_neg h, List.foldl_append, List.foldl_cons, List.foldl_nil]
    rw [List.foldl_cons, ih, hone, List.foldl_cons]

end Descriptions

theorem merge_assoc (a b c : Attributes) : (a.merge b).merge c = a.merge (b.merge c) := by
  simp only [merge, foldl_addNew_foldl, SortedMap.union_assoc]

theorem merge_merge_self (a b : Attributes) : (a.merge b).merge b = a.merge b := by
  have hdescriptions : b.descriptions.foldl addNew (a.merge b).descriptions =
      (a.merge b).descriptions :=
    foldl_addNew_of_subset fun _ h => mem_foldl_addNew.2 (.inr h)
  rw [merge, hdescriptions]
  simp only [merge, SortedMap.union_union_self]

/-- Several sets as one, each merged into those before it. -/
def mergeAll : List Attributes → Attributes
  | [] => empty
  | a :: rest => rest.foldl merge a

/-- Sets in a row: all their descriptions, however often they occur, and under each key the entry
that comes last. -/
def inARow (as : List Attributes) : Attributes where
  descriptions := as.flatMap (·.descriptions)
  accessorNames := .ofList (as.flatMap (·.accessorNames.toList))
  extra := .ofList (as.flatMap (·.extra.toList))

theorem merge_inARow (a : Attributes) (as : List Attributes) :
    a.merge (inARow as) = as.foldl merge a := by
  induction as generalizing a with
  | nil => rfl
  | cons b rest ih =>
    rw [List.foldl_cons, ← ih]
    simp only [merge, inARow, List.flatMap_cons, List.foldl_append, SortedMap.union_ofList]
    rfl

/-! ## Attaching -/

theorem attach_empty (had : Option Attributes) : attach had empty = had := rfl

theorem attach_merge (had : Option Attributes) (a b : Attributes) :
    attach had (a.merge b) = attach (attach had a) b := by
  by_cases hb : b.isEmpty = true
  · rw [isEmpty_iff.1 hb, merge_empty, attach_empty]
  · rw [attach, if_neg fun h => hb (isEmpty_merge.1 h).2, attach, if_neg hb]
    by_cases ha : a.isEmpty = true
    · rw [isEmpty_iff.1 ha, attach_empty, ← merge_assoc, merge_empty]
    · rw [attach, if_neg ha, Option.getD_some, merge_assoc]

/-- Attaching sets as one is attaching them in turn. -/
theorem attach_mergeAll (had : Option Attributes) (as : List Attributes) :
    attach had (mergeAll as) = as.foldl attach had := by
  cases as with
  | nil => rfl
  | cons a rest =>
    rw [mergeAll, List.foldl_cons]
    induction rest generalizing a with
    | nil => rfl
    | cons b rest ih => rw [List.foldl_cons, ih, attach_merge, List.foldl_cons]

theorem attach_inARow (had : Option Attributes) (as : List Attributes) :
    attach had (inARow as) = as.foldl attach had := by
  have hempty : attach had (empty.merge (inARow as)) = attach had (inARow as) := by
    rw [attach_merge, attach_empty]
  rw [← hempty, merge_inARow]
  exact attach_mergeAll had (empty :: as)

theorem foldl_attach_groups (had : Option Attributes) (groups : List (List Attributes)) :
    (groups.map mergeAll).foldl attach had = groups.flatten.foldl attach had := by
  induction groups generalizing had with
  | nil => rfl
  | cons as rest ih =>
    rw [List.map_cons, List.foldl_cons, attach_mergeAll, ih, List.flatten_cons, List.foldl_append]

end Attributes

namespace Graph

open Attributes Recorded

theorem attachedTo_map (t u : TypeRef) (as : List Attributes) :
    attachedTo u (as.map (.addAttributes t)) = if t = u then as else [] := by
  induction as with
  | nil => exact (ite_self _).symm
  | cons a rest ih =>
    rw [List.map_cons, attachedTo_cons, ih, subject?, attachment?]
    by_cases h : t = u <;> simp [h]

/-- Attaching to a type changes nothing of a graph but what types carry. -/
theorem replay_map_eq (t : TypeRef) (as : List Attributes) (g : Graph) :
    g.replay (as.map (.addAttributes t)) =
      { g with attributes := (g.replay (as.map (.addAttributes t))).attributes } := by
  induction as generalizing g with
  | nil => rfl
  | cons a rest ih =>
    obtain ⟨hnodes, hinterned, htops⟩ := attributes_unread a t g
    refine (ih (addAttributes t a g).2).trans ?_
    rw [hnodes, hinterned, htops]
    rfl

/-- Only what the type carries in the end tells sets that are attached to it apart. -/
theorem replay_map_congr {g : Graph} {t : TypeRef} {as bs : List Attributes}
    (h : as.foldl attach (g.attributesOf? t) = bs.foldl attach (g.attributesOf? t)) :
    g.replay (as.map (.addAttributes t)) = g.replay (bs.map (.addAttributes t)) := by
  have hattributes : (g.replay (as.map (.addAttributes t))).attributes =
      (g.replay (bs.map (.addAttributes t))).attributes := by
    refine SortedMap.ext_get? fun u => ?_
    change (g.replay _).attributesOf? u = (g.replay _).attributesOf? u
    rw [attributesOf?_replay, attributesOf?_replay, attachedTo_map, attachedTo_map]
    by_cases hu : t = u
    · rw [if_pos hu, if_pos hu, ← hu, h]
    · rw [if_neg hu, if_neg hu]
  calc g.replay (as.map (.addAttributes t))
      = { g with attributes := (g.replay (as.map (.addAttributes t))).attributes } :=
        replay_map_eq t as g
    _ = { g with attributes := (g.replay (bs.map (.addAttributes t))).attributes } := by
        rw [hattributes]
    _ = g.replay (bs.map (.addAttributes t)) := (replay_map_eq t bs g).symm

end Graph

/-- Merging is associative, and merging a set twice is merging it once. The descriptions stay at the
front, and each new one comes behind them once, in the order of first occurrence. A graph ends up
the same if sets are attached to a type one by one or in groups that were merged before. And
whatever calls are made of a graph, a type has the attributes that it would have from one call with
all the sets that they attach to it in a row. -/
theorem Attributes.merge_grouped :
    (∀ a b c : Attributes, (a.merge b).merge c = a.merge (b.merge c)) ∧
    (∀ a b : Attributes, (a.merge b).merge b = a.merge b) ∧
    (∀ a b : Attributes, (a.merge b).descriptions =
      a.descriptions ++ (b.descriptions.filter (· ∉ a.descriptions)).eraseDups) ∧
    (∀ (g : Graph) (t : TypeRef) (groups : List (List Attributes)),
      g.replay ((groups.map mergeAll).map (.addAttributes t)) =
        g.replay (groups.flatten.map (.addAttributes t))) ∧
    ∀ (g : Graph) (t : TypeRef) (calls : List SinkCall),
      (g.replay calls).attributesOf? t =
        (Graph.addAttributes t (inARow (Recorded.attachedTo t calls)) g).2.attributesOf? t := by
  refine ⟨merge_assoc, merge_merge_self, fun a b => foldl_addNew _ _, fun g t groups =>
    Graph.replay_map_congr (foldl_attach_groups _ _), fun g t calls => ?_⟩
  rw [Graph.attributesOf?_replay, Graph.attributesOf?_addAttributes, if_pos rfl, attach_inARow]

end JsonTypes
