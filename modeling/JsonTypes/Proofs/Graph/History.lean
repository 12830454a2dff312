import JsonTypes.Proofs.Graph.Recorded
import Mathlib.Data.List.Induction

/-!
# What happened to each type

The calls that were made of a recorded graph tell the history of a type (`Recorded.history`): the
calls that made it, filled it and said something about it, in order. What a type carries is what
was attached to it in its history (`Recorded.Built.carried`).
-/

namespace JsonTypes

namespace Attributes

/-- What a type carries to which these are attached in turn. -/
def carried (as : List Attributes) : Option Attributes :=
  let merged := as.foldl merge empty
  if merged.isEmpty then none else some merged

theorem isEmpty_iff {a : Attributes} : a.isEmpty = true ↔ a = empty := by
  obtain ⟨descriptions, ⟨names, hn⟩, ⟨extra, he⟩⟩ := a
  simp [isEmpty, empty, SortedMap.isEmpty, SortedMap.empty, and_assoc]

theorem merge_empty (a : Attributes) : a.merge empty = a := rfl

/-- Descriptions that are new come behind those there are, each where it occurs first. -/
theorem foldl_addNew (texts before : List String) :
    texts.foldl addNew before = before ++ (texts.filter (· ∉ before)).eraseDups := by
  induction texts generalizing before with
  | nil => simp
  | cons text rest ih =>
    rw [List.foldl_cons, ih, addNew]
    by_cases h : text ∈ before
    · simp [h]
    · simp [h, List.eraseDups_cons, List.filter_filter, Bool.and_comm, beq_eq_decide]

example : ["b", "a", "b"].foldl addNew ["a"] = ["a", "b"] := by decide

theorem foldl_addNew_eq_nil_iff {texts before : List String} :
    texts.foldl addNew before = [] ↔ before = [] ∧ texts = [] := by
  rw [foldl_addNew, List.append_eq_nil_iff]
  refine and_congr_right fun h => ?_
  cases texts <;> simp [h, List.eraseDups_cons]

theorem isEmpty_merge {a b : Attributes} :
    (a.merge b).isEmpty = true ↔ a.isEmpty = true ∧ b.isEmpty = true := by
  simp only [isEmpty, merge, Bool.and_eq_true, List.isEmpty_iff, SortedMap.isEmpty_iff,
    SortedMap.union_eq_empty_iff, foldl_addNew_eq_nil_iff]
  tauto

/-- What a type has once a set is attached to it, if it had this before. -/
def attach (had : Option Attributes) (a : Attributes) : Option Attributes :=
  if a.isEmpty then had else some ((had.getD empty).merge a)

theorem carried_concat (as : List Attributes) (a : Attributes) :
    carried (as ++ [a]) = attach (carried as) a := by
  have hbefore : (carried as).getD empty = as.foldl merge empty := by
    simp only [carried]
    split_ifs with h
    · exact (isEmpty_iff.1 h).symm
    · rfl
  rw [attach, hbefore]
  simp only [carried, List.foldl_append, List.foldl_cons, List.foldl_nil]
  by_cases ha : a.isEmpty = true
  · rw [if_pos ha, isEmpty_iff.1 ha, merge_empty]
  · rw [if_neg ha, if_neg fun h => ha (isEmpty_merge.1 h).2]

theorem carried_eq_foldl (as : List Attributes) : carried as = as.foldl attach none := by
  induction as using List.reverseRecOn with
  | nil => rfl
  | append_singleton as a ih =>
    rw [carried_concat, ih, List.foldl_append, List.foldl_cons, List.foldl_nil]

end Attributes

namespace Recorded

/-- The type that a call makes, fills or says something about. -/
def subject? : SinkCall → Option TypeRef
  | .intern _ t => some t
  | .addFresh _ t => some t
  | .reserve t => some t
  | .fill t _ => some t
  | .addAttributes t _ => some t
  | .addTopLevel _ _ => none

def attachment? : SinkCall → Option Attributes
  | .addAttributes _ a => some a
  | _ => none

def top? : SinkCall → Option (String × TypeRef)
  | .addTopLevel name t => some (name, t)
  | _ => none

/-- What happened to a type, in order. -/
def history (r : Recorded) (t : TypeRef) : List SinkCall :=
  r.calls.filter fun call => subject? call = some t

/-- The top levels that were added, in order. -/
def tops (r : Recorded) : List (String × TypeRef) := r.calls.filterMap top?

/-- The names under which a type was added as a top level. -/
def namesOf (r : Recorded) (t : TypeRef) : List String :=
  (r.tops.filter (·.2 = t)).map (·.1)

variable {r r' r'' : Recorded} {t u : TypeRef} {n : Node} {calls : List SinkCall}

theorem history_append (h : r'.calls = r.calls ++ calls) (t : TypeRef) :
    r'.history t = r.history t ++ calls.filter fun call => subject? call = some t := by
  rw [history, h, List.filter_append]
  rfl

theorem tops_append (h : r'.calls = r.calls ++ calls) : r'.tops = r.tops ++ calls.filterMap top? := by
  rw [tops, h, List.filterMap_append]
  rfl

theorem namesOf_append (h : r'.calls = r.calls ++ calls) (t : TypeRef) :
    r'.namesOf t =
      r.namesOf t ++ ((calls.filterMap top?).filter (·.2 = t)).map (·.1) := by
  rw [namesOf, tops_append h, List.filter_append, List.map_append]
  rfl

theorem history_concat {call : SinkCall} (h : r'.calls = r.calls ++ [call]) (t : TypeRef) :
    r'.history t = r.history t ++ if subject? call = some t then [call] else [] := by
  rw [history_append h]
  split_ifs with hs <;> simp [hs]

theorem history_of_subject {call : SinkCall} (h : r'.calls = r.calls ++ [call])
    (hs : subject? call = some t) : r'.history t = r.history t ++ [call] := by
  rw [history_concat h, if_pos hs]

/-! ## What types carry -/

/-- What calls attach to a type, in order. -/
def attachedTo (t : TypeRef) (calls : List SinkCall) : List Attributes :=
  (calls.filter fun call => subject? call = some t).filterMap attachment?

/-- What was attached to a type, in order. -/
def attached (r : Recorded) (t : TypeRef) : List Attributes := (r.history t).filterMap attachment?

theorem attachedTo_cons (t : TypeRef) (call : SinkCall) (rest : List SinkCall) :
    attachedTo t (call :: rest) =
      (if subject? call = some t then (attachment? call).toList else []) ++ attachedTo t rest := by
  by_cases hs : subject? call = some t
  · rcases ha : attachment? call with _ | a <;> simp [attachedTo, hs, ha]
  · simp [attachedTo, hs]

end Recorded

namespace Graph

open Attributes Recorded

theorem attributes_intern (n : Node) (g : Graph) : (intern n g).2.attributes = g.attributes := by
  unfold intern
  split <;> rfl

theorem attributesOf?_addAttributes (u t : TypeRef) (a : Attributes) (g : Graph) :
    (addAttributes u a g).2.attributesOf? t =
      if u = t then attach (g.attributesOf? t) a else g.attributesOf? t := by
  unfold addAttributes attach
  split_ifs with ha hut hut
  · rfl
  · rfl
  · exact (SortedMap.get?_insert _ _ _ _).trans (by rw [if_pos hut, hut])
  · exact (SortedMap.get?_insert _ _ _ _).trans (if_neg hut)

/-- Of all calls only those that attach something to a type change what it carries. -/
theorem attributesOf?_run (call : SinkCall) (t : TypeRef) (g : Graph) :
    (call.run g).attributesOf? t =
      (if subject? call = some t then (attachment? call).toList else []).foldl attach
        (g.attributesOf? t) := by
  have unread : attachment? call = none → (call.run g).attributes = g.attributes →
      (call.run g).attributesOf? t =
        (if subject? call = some t then (attachment? call).toList else []).foldl attach
          (g.attributesOf? t) := by
    intro hnone hattributes
    rw [hnone, Option.toList_none, ite_self, attributesOf?, hattributes]
    rfl
  cases call with
  | intern n u => exact unread rfl (attributes_intern n g)
  | addAttributes u a =>
    rw [SinkCall.run, attributesOf?_addAttributes, subject?, attachment?]
    by_cases hut : u = t <;> simp [hut]
  | _ => exact unread rfl rfl

theorem attributesOf?_replay (t : TypeRef) (calls : List SinkCall) (g : Graph) :
    (g.replay calls).attributesOf? t = (attachedTo t calls).foldl attach (g.attributesOf? t) := by
  induction calls generalizing g with
  | nil => rfl
  | cons call rest ih => rw [attachedTo_cons, List.foldl_append, ← attributesOf?_run, ← ih]; rfl

end Graph

/-- A graph carries what was attached in the history of each type. -/
theorem Recorded.Built.carried {allowed : Graph → Node → Prop} {r : Recorded} (h : r.Built allowed)
    (t : TypeRef) : r.graph.attributesOf? t = Attributes.carried (r.attached t) := by
  rw [h.graph_eq, Graph.attributesOf?_replay, Attributes.carried_eq_foldl]
  rfl

end JsonTypes
