import JsonTypes.Proofs.Graph.Bisimilar
import JsonTypes.Proofs.Schema.Admission

/-!
# What keywords add up to

The rules for an object come from its sources and from nowhere else (`ObjectRules.From`): every
property is one that some source names, at its place in that source, and likewise what is
required and what further members must be. The nodes for literal values have one for every value
that is listed (`exists_mem_literalNodes`).
-/

namespace JsonTypes.Materialize

theorem mem_pushUnique {nodes : List Node} {n m : Node} :
    m ∈ pushUnique nodes n ↔ m = n ∨ m ∈ nodes := by
  unfold pushUnique
  split_ifs with h
  · constructor
    · exact .inr
    · rintro (rfl | hm)
      · exact h
      · exact hm
  · rw [List.mem_append, List.mem_singleton, or_comm]

theorem mem_foldl_pushUnique {m : Node} : ∀ {nodes before : List Node},
    m ∈ nodes.foldl pushUnique before ↔ m ∈ nodes ∨ m ∈ before
  | [], before => by simp
  | n :: rest, before => by
    rw [List.foldl_cons, mem_foldl_pushUnique, mem_pushUnique, List.mem_cons, or_assoc]
    exact or_left_comm

namespace ObjectRules

/-- The rules say nothing but what the sources say, and every property of theirs. -/
structure From (rules : ObjectRules) (sources : List Source) : Prop where
  nodup : (Entries.keys rules.properties).Nodup
  properties : ∀ k l, (k, l) ∈ rules.properties →
    ∃ s ∈ sources, k ∈ propertyNames s.2 ∧ l = (s.1.push "properties").push k
  named : ∀ s ∈ sources, ∀ k ∈ propertyNames s.2, k ∈ Entries.keys rules.properties
  required : ∀ k ∈ rules.required, ∃ s ∈ sources, ∃ names,
    Entries.get? s.2 "required" = some (.array names) ∧ .string k ∈ names
  additional : ∀ l, rules.additional = some l → ∃ s ∈ sources, ∃ members,
    Entries.get? s.2 "additionalProperties" = some (.object members) ∧
      l = s.1.push "additionalProperties"

theorem from_empty : From empty [] where
  nodup := List.nodup_nil
  properties := nofun
  named := nofun
  required := nofun
  additional := nofun

/-! ## One source -/

section Source

variable (rules : ObjectRules) (l : Location)

section Fields

variable (o : Option Json)

@[simp]
theorem addProperties_required : (rules.addProperties l o).required = rules.required := by
  unfold addProperties
  split <;> rfl

@[simp]
theorem addProperties_additional : (rules.addProperties l o).additional = rules.additional := by
  unfold addProperties
  split <;> rfl

@[simp]
theorem addRequired_properties : (rules.addRequired o).properties = rules.properties := by
  unfold addRequired
  split <;> rfl

@[simp]
theorem addRequired_additional : (rules.addRequired o).additional = rules.additional := by
  unfold addRequired
  split <;> rfl

@[simp]
theorem addAdditional_properties : (rules.addAdditional l o).properties = rules.properties := by
  unfold addAdditional
  split
  · split <;> rfl
  · rfl
  · rfl

@[simp]
theorem addAdditional_required : (rules.addAdditional l o).required = rules.required := by
  unfold addAdditional
  split
  · split <;> rfl
  · rfl
  · rfl

end Fields

variable (schema : List (String × Json))

theorem addSource_properties :
    (rules.addSource (l, schema)).properties =
      (propertyNames schema).foldl (fun ps k => Entries.put ps k ((l.push "properties").push k))
        rules.properties := by
  simp only [addSource, addAdditional_properties, addRequired_properties]
  rcases hp : Entries.get? schema "properties" with _ | _ | _ | _ | _ | _ | members <;>
    simp only [addProperties, propertyNames, hp, List.foldl_nil]
  rw [Entries.keys, List.foldl_map]

theorem addSource_required :
    (rules.addSource (l, schema)).required =
      rules.required ++
        (((Entries.get? schema "required").bind Json.array?).getD []).filterMap Json.string? := by
  simp only [addSource, addAdditional_required]
  unfold addRequired
  rcases Entries.get? schema "required" with _ | _ | _ | _ | _ | names | _ <;> simp [Json.array?]

theorem addSource_additional :
    (rules.addSource (l, schema)).additional = rules.additional ∨
      (∃ members, Entries.get? schema "additionalProperties" = some (.object members)) ∧
        (rules.addSource (l, schema)).additional = some (l.push "additionalProperties") := by
  simp only [addSource]
  unfold addAdditional
  split
  · rename_i members hm
    split
    · exact .inr ⟨⟨members, hm⟩, rfl⟩
    · simp
  · simp
  · simp

end Source

theorem From.addSource {rules : ObjectRules} {sources : List Source} (h : From rules sources)
    (s : Source) : From (rules.addSource s) (sources ++ [s]) where
  nodup := by
    rw [addSource_properties]
    exact Entries.nodup_keys_foldl_put h.nodup
  properties k l hk := by
    rw [addSource_properties] at hk
    rcases Entries.mem_foldl_put hk with ⟨name, hn, he⟩ | hk
    · cases he
      exact ⟨s, by simp, hn, rfl⟩
    · obtain ⟨s', hs', hk⟩ := h.properties k l hk
      exact ⟨s', by simp [hs'], hk⟩
  named s' hs' k hk := by
    rw [addSource_properties, Entries.mem_keys_foldl_put]
    rcases List.mem_append.1 hs' with hs' | hs'
    · exact .inr (h.named s' hs' k hk)
    · rw [List.mem_singleton] at hs'
      exact .inl ⟨k, hs' ▸ hk, rfl⟩
  required k hk := by
    rw [addSource_required, List.mem_append] at hk
    rcases hk with hk | hk
    · obtain ⟨s', hs', hk⟩ := h.required k hk
      exact ⟨s', by simp [hs'], hk⟩
    · refine ⟨s, by simp, ?_⟩
      rcases hr : Entries.get? s.2 "required" with _ | _ | _ | _ | _ | names | _ <;>
        simp only [hr, Json.array?, Option.bind_none, Option.bind_some, Option.getD_none,
          Option.getD_some, List.filterMap_nil, List.not_mem_nil] at hk
      obtain ⟨w, hw, hk⟩ := List.mem_filterMap.1 hk
      cases w <;> cases hk
      exact ⟨names, rfl, hw⟩
  additional l hl := by
    rcases addSource_additional rules s.1 s.2 with he | ⟨⟨members, hm⟩, he⟩
    · rw [he] at hl
      obtain ⟨s', hs', hl⟩ := h.additional l hl
      exact ⟨s', by simp [hs'], hl⟩
    · rw [he] at hl
      cases hl
      exact ⟨s, by simp, members, hm, rfl⟩

theorem From.foldl {sources before : List Source} {rules : ObjectRules} (h : From rules before) :
    From (sources.foldl ObjectRules.addSource rules) (before ++ sources) := by
  induction sources generalizing before rules with
  | nil => simpa using h
  | cons s rest ih => simpa using ih (h.addSource s)

theorem ofSources_from (sources : List Source) : From (ofSources sources) sources :=
  from_empty.foldl

/-- The rules for a map name no property in any source. -/
theorem From.propertyNames_eq_nil {rules : ObjectRules} {sources : List Source}
    (h : From rules sources) (hm : rules.isMap = true) {s : Source} (hs : s ∈ sources) :
    propertyNames s.2 = [] := by
  simp only [isMap, Bool.and_eq_true, List.isEmpty_iff] at hm
  refine List.eq_nil_iff_forall_not_mem.2 fun k hk => ?_
  have := h.named s hs k hk
  rw [hm.1] at this
  cases this

end ObjectRules

/-! ## Literal values -/

/-- The node that a literal value of this kind gets accepts the value, whatever it looks like. -/
theorem exists_mem_literalNodes {values : List Json} {w : Json} (hw : w ∈ values) :
    (∃ s, w = .string s ∧ .enum (.ofList (values.filterMap Json.string?)) ∈ literalNodes values) ∨
      ∃ n, literalNode? w = some n ∧ n ∈ literalNodes values := by
  unfold literalNodes
  simp only [mem_foldl_pushUnique]
  rcases hn : literalNode? w with _ | n
  · left
    cases w with
    | string s =>
      have hs : s ∈ values.filterMap Json.string? := List.mem_filterMap.2 ⟨_, hw, rfl⟩
      have hne : (values.filterMap Json.string?).isEmpty = false :=
        List.isEmpty_eq_false_iff.2 (List.ne_nil_of_mem hs)
      exact ⟨s, rfl, .inr (by simp [hne])⟩
    | number n => cases n <;> cases hn
    | _ => cases hn
  · exact .inr ⟨n, rfl, .inl (List.mem_filterMap.2 ⟨w, hw, hn⟩)⟩

theorem isLeaf_of_mem_literalNodes {values : List Json} {n : Node} (hn : n ∈ literalNodes values) :
    n.isLeaf = true := by
  unfold literalNodes at hn
  rcases mem_foldl_pushUnique.1 hn with hn | hn
  · obtain ⟨v, -, hv⟩ := List.mem_filterMap.1 hn
    unfold literalNode? at hv
    split at hv <;> cases hv <;> rfl
  · split_ifs at hn
    · cases hn
    · cases List.mem_singleton.1 hn
      rfl

end JsonTypes.Materialize
