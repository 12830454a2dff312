import JsonTypes.Proofs.Graph.Conformance
import JsonTypes.Proofs.Schema.Keywords
import JsonTypes.Proofs.Schema.Yields

/-!
# The node of a schema accepts what the schema allows

If the answers that a plan gets are right (`Answers.Right`), the node that it yields accepts every
value that the rules of the schema allow (`objectSchemaPlan_accepts`). There is one statement for
each kind of plan, and they are put together the way the plans are.

The schema and its parts are all asked about the value itself, so an object node that mixes their
properties asks for no more than they do.
-/

namespace JsonTypes.Materialize

open Plan

/-- A shared node is the node of its type, and the type of a location has the values that are
admitted there. -/
structure Answers.Right (A : Answers) (hasFormat : StringFormat → String → Prop) (g : Graph)
    (Admitted : Location → Json → Prop) : Prop where
  shared : ∀ n t, A.shared n t → g.node? t = some n
  type : ∀ l t v, A.type l t → Admitted l v → Conforms (.lax hasFormat) g v t

variable {A : Answers} {hasFormat : StringFormat → String → Prop} {g : Graph}
  {Admitted : Location → Json → Prop}

/-! ## Objects and arrays -/

theorem yields_propertyPlan {required : List String} (p : String × Location)
    (q : String × Property) : Yields A (propertyPlan required p) q ↔
      q.1 = p.1 ∧ A.type p.2 q.2.type ∧ q.2.optional = !required.contains p.1 := by
  obtain ⟨name, type, optional⟩ := q
  simp only [propertyPlan, yields_bind, yields_askType, yields_pure, Prod.mk.injEq,
    Property.mk.injEq]
  constructor
  · rintro ⟨t, ht, rfl, rfl, rfl⟩
    exact ⟨rfl, ht, rfl⟩
  · rintro ⟨rfl, ht, rfl⟩
    exact ⟨type, ht, rfl, rfl, rfl⟩

theorem keys_of_forall₂ {required : List String} {ps : List (String × Location)}
    {qs : List (String × Property)}
    (h : List.Forall₂ (fun p q => q.1 = p.1 ∧ A.type p.2 q.2.type ∧
      q.2.optional = !required.contains p.1) ps qs) : Entries.keys qs = Entries.keys ps := by
  induction h with
  | nil => rfl
  | cons hpq _ ih => exact congrArg₂ List.cons hpq.1 ih

theorem objectPlan_accepts (hA : A.Right hasFormat g Admitted) {sources : List Source} {n : Node}
    (hn : Yields A (objectPlan sources) n) {members : List (String × Json)}
    (hs : ∀ s ∈ sources, Allows hasFormat Admitted s.1 s.2 (.object members)) :
    Accepts (.lax hasFormat) g (.object members) n := by
  have hrules := ObjectRules.ofSources_from sources
  unfold objectPlan at hn
  generalize ObjectRules.ofSources sources = rules at hn hrules
  by_cases hm : rules.isMap = true
  · rw [if_pos hm] at hn
    rcases ha : rules.additional with _ | l <;>
      simp only [ha, yields_bind, yields_askType, yields_askShared, yields_pure] at hn
    · obtain ⟨t, ht, rfl⟩ := hn
      exact .map fun k x hx => .any (hA.shared _ _ ht)
    · obtain ⟨t, ht, rfl⟩ := hn
      obtain ⟨s, hmem, ms, hms, rfl⟩ := hrules.additional l ha
      refine .map fun k x hx => hA.type _ t x ht ?_
      refine (hs s hmem).additional members rfl _ hms (.inl ⟨ms, rfl⟩) k x hx ?_
      rw [hrules.propertyNames_eq_nil hm hmem]
      exact List.not_mem_nil
  · rw [if_neg hm] at hn
    simp only [yields_bind, yields_pure, yields_askEach yields_propertyPlan] at hn
    obtain ⟨types, htypes, rfl⟩ := hn
    have hget : ∀ k, (SortedMap.ofList types).get? k = Entries.get? types k :=
      SortedMap.get?_ofList (show (Entries.keys types).Nodup from
        keys_of_forall₂ htypes ▸ hrules.nodup)
    refine .object (fun hc => hc.elim) (fun k x p hx hp => ?_) fun k p hp hopt => ?_ <;>
      obtain ⟨⟨name, l⟩, hl, hk, ht, ho⟩ :=
        htypes.exists_of_mem_right (Entries.mem_of_get? (hget k ▸ hp)) <;>
      simp only at hk ht ho <;> subst hk
    · obtain ⟨s, hmem, hname, rfl⟩ := hrules.properties k l hl
      exact hA.type _ _ x ht ((hs s hmem).properties members rfl k x hx hname)
    · rw [hopt, eq_comm, Bool.not_eq_false', List.contains_iff_mem] at ho
      obtain ⟨s, hmem, names, hnames, hname⟩ := hrules.required k ho
      exact (hs s hmem).required members rfl names hnames k hname

theorem arrayPlan_accepts (hA : A.Right hasFormat g Admitted) {schema : List (String × Json)}
    {l : Location} {n : Node} (hn : Yields A (arrayPlan schema l) n) {xs : List Json}
    (ha : Allows hasFormat Admitted l schema (.array xs)) :
    Accepts (.lax hasFormat) g (.array xs) n := by
  have hone : ∀ item, Entries.get? schema "items" = some item →
      (∃ ms, item = .object ms) ∨ (∃ b, item = .bool b) →
      (∃ t, A.type (l.push "items") t ∧ .array t = n) →
      Accepts (.lax hasFormat) g (.array xs) n := by
    rintro item hi hs ⟨t, ht, rfl⟩
    exact .array fun x hx => hA.type _ t x ht (ha.items xs rfl item hi hs x hx)
  have hany : (∃ t, A.shared .any t ∧ .array t = n) →
      Accepts (.lax hasFormat) g (.array xs) n := by
    rintro ⟨t, ht, rfl⟩
    exact .array fun x _ => .any (hA.shared _ _ ht)
  unfold arrayPlan at hn
  rcases hi : Entries.get? schema "items" with _ | _ | b | _ | _ | ⟨_ | ⟨item, rest⟩⟩ | ms <;>
    simp only [hi, yields_bind, yields_askType, yields_askShared, yields_askTypes,
      yields_pure] at hn
  case some.bool => exact hone _ hi (.inr ⟨b, rfl⟩) hn
  case some.object => exact hone _ hi (.inl ⟨ms, rfl⟩) hn
  case some.array.cons =>
    obtain ⟨members, hmembers, t, ht, rfl⟩ := hn
    refine .array fun x hx => ?_
    obtain ⟨e, he, hx⟩ := ha.entries xs rfl _ hi (List.cons_ne_nil _ _) x hx
    obtain ⟨m, hm, hem⟩ := hmembers.exists_of_mem_left he
    exact .union (hA.shared _ _ ht) (SortedSet.mem_ofList.2 hm) (hA.type e m x hem hx)
  all_goals exact hany hn

/-! ## Types -/

theorem planForType_accepts (hA : A.Right hasFormat g Admitted) {type : String}
    {schema : List (String × Json)} {sources : List Source} {l : Location} {n : Node}
    (hn : Yields A (planForType type schema sources l) n) {v : Json} (ht : type ∈ v.typeNames)
    (ha : Allows hasFormat Admitted l schema v)
    (hs : ∀ s ∈ sources, Allows hasFormat Admitted s.1 s.2 v) :
    Accepts (.lax hasFormat) g v n := by
  cases v with
  | null =>
    rw [Json.typeNames, List.mem_singleton] at ht
    subst ht
    cases yields_pure.1 hn
    exact fun _ _ _ ht => .null ht
  | bool b =>
    rw [Json.typeNames, List.mem_singleton] at ht
    subst ht
    cases yields_pure.1 hn
    exact fun _ _ _ ht => .bool ht
  | number num =>
    cases num with
    | integer i =>
      rw [Json.typeNames, List.mem_pair] at ht
      rcases ht with rfl | rfl
      · cases yields_pure.1 hn
        exact fun _ _ _ ht => .integer ht
      · cases yields_pure.1 hn
        exact fun _ _ _ ht => .double ht
    | double d =>
      rw [Json.typeNames, List.mem_singleton] at ht
      subst ht
      cases yields_pure.1 hn
      exact fun _ _ _ ht => .double ht
  | string s =>
    rw [Json.typeNames, List.mem_singleton] at ht
    subst ht
    cases yields_pure.1 hn
    rcases hf : stringFormat? schema with _ | f
    · exact fun _ _ _ ht => .string ht
    · exact fun _ _ _ ht => .format ht (ha.format s rfl f hf)
  | array xs =>
    rw [Json.typeNames, List.mem_singleton] at ht
    subst ht
    exact arrayPlan_accepts hA hn ha
  | object members =>
    rw [Json.typeNames, List.mem_singleton] at ht
    subst ht
    exact objectPlan_accepts hA hn hs

theorem accepts_of_literalNode? {v w : Json} {n : Node} (hn : literalNode? w = some n)
    (hv : w.Same v) : Accepts (.lax hasFormat) g v n := by
  cases hv with
  | refl =>
    cases v with
    | null =>
      cases hn
      exact fun _ _ _ ht => .null ht
    | bool b =>
      cases hn
      exact fun _ _ _ ht => .bool ht
    | number num =>
      cases num <;> cases hn
      · exact fun _ _ _ ht => .integer ht
      · exact fun _ _ _ ht => .double ht
    | string s => cases hn
    | array xs =>
      cases hn
      exact .any _
    | object members =>
      cases hn
      exact .any _
  | array _ _ =>
    cases hn
    exact .any _
  | object _ _ =>
    cases hn
    exact .any _

/-- A literal value, and any value that is the same, has a node. -/
theorem literalNodes_accept {values : List Json} {v w : Json} (hw : w ∈ values) (hv : w.Same v) :
    ∃ n ∈ literalNodes values, Accepts (.lax hasFormat) g v n := by
  rcases exists_mem_literalNodes hw with ⟨s, rfl, hn⟩ | ⟨n, hl, hn⟩
  · cases hv
    refine ⟨_, hn, fun _ _ _ ht => .enum ht (SortedSet.mem_ofList.2 ?_)⟩
    exact List.mem_filterMap.2 ⟨_, hw, rfl⟩
  · exact ⟨n, hn, accepts_of_literalNode? hl hv⟩

/-! ## Which types -/

/-- What types a schema writes does not depend on where it stands, only how a mistake is told. -/
theorem declaredTypes_congr {schema : List (String × Json)} {l : Location}
    {o : Option (List String)} (h : declaredTypes schema l = .ok o) (l' : Location) :
    declaredTypes schema l' = .ok o := by
  unfold declaredTypes at h ⊢
  rcases ht : Entries.get? schema "type" with _ | _ | _ | _ | _ | types | _ <;>
    simp only [ht] at h ⊢
  case none => exact h
  case some.string => exact h
  case some.array =>
    rcases hm : types.mapM Json.string? with _ | names <;> simp only [hm] at h ⊢
    · cases h
    · exact h
  all_goals cases h

theorem get?_of_declaredTypes_none {schema : List (String × Json)} {l : Location}
    (h : declaredTypes schema l = .ok none) : Entries.get? schema "type" = none := by
  unfold declaredTypes at h
  rcases ht : Entries.get? schema "type" with _ | _ | _ | _ | _ | types | _ <;> simp only [ht] at h
  case none => rfl
  case some.array => rcases hm : types.mapM Json.string? with _ | names <;> simp [hm] at h
  all_goals cases h

theorem firstDeclaredTypes_some {l : Location} : ∀ {sources : List Source} {types : List String},
    firstDeclaredTypes l sources = .ok (some types) →
      ∃ s ∈ sources, declaredTypes s.2 s.1 = .ok (some types)
  | [], _, h => by cases h
  | (l', part) :: rest, types, h => by
    rw [firstDeclaredTypes] at h
    rcases hd : declaredTypes part l with e | _ | names <;> simp only [hd] at h
    · cases h
    · obtain ⟨s, hs, ht⟩ := firstDeclaredTypes_some h
      exact ⟨s, List.mem_cons_of_mem _ hs, ht⟩
    · cases h
      exact ⟨_, List.mem_cons_self, declaredTypes_congr hd l'⟩

theorem firstDeclaredTypes_none {l : Location} : ∀ {sources : List Source},
    firstDeclaredTypes l sources = .ok none →
      ∀ s ∈ sources, Entries.get? s.2 "type" = none
  | [], _ => nofun
  | (l', part) :: rest, h => by
    rw [firstDeclaredTypes] at h
    rcases hd : declaredTypes part l with e | _ | names <;> simp only [hd] at h
    · cases h
    · intro s hs
      rcases List.mem_cons.1 hs with rfl | hs
      · exact get?_of_declaredTypes_none hd
      · exact firstDeclaredTypes_none h s hs
    · cases h

theorem mem_impliedTypes {has : String → Bool} {type : String} :
    type ∈ impliedTypes has ↔
      (type = "object" ∧ ∃ k ∈ ["properties", "additionalProperties", "required"], has k = true) ∨
        (type = "array" ∧ has "items" = true) := by
  unfold impliedTypes
  rw [List.mem_append, ← List.any_eq_true]
  refine or_congr ?_ ?_
  · split_ifs with h <;> simp [h]
  · split_ifs with h <;> simp [h]

/-- The types that the keywords of all sources are about are those of each. -/
theorem mem_impliedTypes_hasKeyword {sources : List Source} {type : String} :
    type ∈ impliedTypes (hasKeyword sources) ↔
      ∃ s ∈ sources, type ∈ impliedTypes (Entries.hasKey s.2) := by
  have hk : ∀ k, hasKeyword sources k = true ↔ ∃ s ∈ sources, Entries.hasKey s.2 k = true :=
    fun k => List.any_eq_true
  simp only [mem_impliedTypes, hk]
  constructor
  · rintro (⟨ht, k, hmem, s, hs, h⟩ | ⟨ht, s, hs, h⟩)
    · exact ⟨s, hs, .inl ⟨ht, k, hmem, h⟩⟩
    · exact ⟨s, hs, .inr ⟨ht, h⟩⟩
  · rintro ⟨s, hs, ⟨ht, k, hmem, h⟩ | ⟨ht, h⟩⟩
    · exact .inl ⟨ht, k, hmem, s, hs, h⟩
    · exact .inr ⟨ht, s, hs, h⟩

/-- Types that a schema takes from its parts, or from what its keywords and theirs are about. -/
theorem inferredTypes_allow {schema : List (String × Json)} {parts : List Source} {l : Location}
    {types : List String} (h : inferredTypes ((l, schema) :: parts) l = .ok types)
    (hd : declaredTypes schema l = .ok none) {v : Json}
    (hs : ∀ s ∈ (l, schema) :: parts, Allows hasFormat Admitted s.1 s.2 v) :
    types = [] ∨ ∃ type ∈ types, type ∈ v.typeNames := by
  unfold inferredTypes at h
  rw [List.tail_cons] at h
  rcases hf : firstDeclaredTypes l parts with e | _ | names <;> simp only [hf] at h
  · cases h
  · cases h
    have hnone : ∀ s ∈ (l, schema) :: parts, Entries.get? s.2 "type" = none := by
      intro s hmem
      rcases List.mem_cons.1 hmem with rfl | hmem
      · exact get?_of_declaredTypes_none hd
      · exact firstDeclaredTypes_none hf s hmem
    rcases he : impliedTypes (hasKeyword ((l, schema) :: parts)) with _ | ⟨type, rest⟩
    · exact .inl rfl
    · obtain ⟨s, hmem, htype⟩ := mem_impliedTypes_hasKeyword.1 (he ▸ List.mem_cons_self)
      obtain ⟨type', ht', hv⟩ := (hs s hmem).implied (hnone s hmem) (List.ne_nil_of_mem htype)
      exact .inr ⟨type', he ▸ mem_impliedTypes_hasKeyword.2 ⟨s, hmem, ht'⟩, hv⟩
  · cases h
    obtain ⟨s, hmem, hd⟩ := firstDeclaredTypes_some hf
    exact .inr ((hs s (List.mem_cons_of_mem _ hmem)).declared _ hd)

/-! ## Schemas -/

theorem combine_accepts (hA : A.Right hasFormat g Admitted) {options : List TypeRef}
    {nodes : List Node} {n : Node} (hn : Yields A (combine options nodes) n) {v : Json}
    (hv : options = [] ∧ nodes = [] ∨ (∃ t ∈ options, Conforms (.lax hasFormat) g v t) ∨
      ∃ m ∈ nodes, Accepts (.lax hasFormat) g v m) : Accepts (.lax hasFormat) g v n := by
  have hunion : (∃ members, List.Forall₂ A.shared nodes members ∧
      .union (.ofList (options ++ members)) = n) →
      ((∃ t ∈ options, Conforms (.lax hasFormat) g v t) ∨
        ∃ m ∈ nodes, Accepts (.lax hasFormat) g v m) → Accepts (.lax hasFormat) g v n := by
    rintro ⟨members, hmembers, rfl⟩ (⟨t, ht, hv⟩ | ⟨m, hm, hv⟩)
    · exact .union (List.mem_append_left _ ht) hv
    · obtain ⟨t, ht, hmt⟩ := hmembers.exists_of_mem_left hm
      exact .union (List.mem_append_right _ ht) (hv.conforms (hA.shared _ _ hmt))
  rcases options with _ | ⟨o, os⟩
  · rcases nodes with _ | ⟨m, _ | ⟨m', ms⟩⟩
    · cases yields_pure.1 hn
      exact .any v
    · cases yields_pure.1 hn
      simpa using hv
    · simp only [combine, yields_bind, yields_askAllShared, yields_pure] at hn
      exact hunion hn (by simpa using hv)
  · simp only [combine, yields_bind, yields_askAllShared, yields_pure] at hn
    exact hunion hn (by simpa using hv)

theorem typesOf_allow {schema : List (String × Json)} {parts : List Source} {l : Location}
    {types : List String} (h : typesOf schema ((l, schema) :: parts) l = .ok types)
    (hopt : ∀ keyword ∈ optionKeywords, arrayAt schema keyword = none) {v : Json}
    (hs : ∀ s ∈ (l, schema) :: parts, Allows hasFormat Admitted s.1 s.2 v) :
    types = [] ∨ ∃ type ∈ types, type ∈ v.typeNames := by
  unfold typesOf at h
  rcases hd : declaredTypes schema l with e | _ | names <;> simp only [hd] at h
  · cases h
  · have hno : (optionKeywords.any fun k => (arrayAt schema k).isSome) = false :=
      List.any_eq_false.2 fun k hk => by simp [hopt k hk]
    rw [hno] at h
    exact inferredTypes_allow h hd hs
  · cases h
    exact .inr ((hs _ List.mem_cons_self).declared _ hd)

/-- Without options, the nodes beside them cover every value that is allowed. -/
theorem ownPlan_accepts (hA : A.Right hasFormat g Admitted) {schema : List (String × Json)}
    {parts : List Source} {l : Location} {nodes : List Node}
    (hn : Yields A (ownPlan schema ((l, schema) :: parts) l) nodes)
    (hopt : ∀ keyword ∈ optionKeywords, arrayAt schema keyword = none) {v : Json}
    (hs : ∀ s ∈ (l, schema) :: parts, Allows hasFormat Admitted s.1 s.2 v) :
    nodes = [] ∨ ∃ m ∈ nodes, Accepts (.lax hasFormat) g v m := by
  have hself := hs _ List.mem_cons_self
  unfold ownPlan at hn
  rcases hl : literalValues? schema with _ | values <;> simp only [hl] at hn
  · simp only [yields_bind, yields_ofExcept, yields_pure, yields_askEach fun _ _ => Iff.rfl] at hn
    obtain ⟨types, htypes, found, hfound, rfl⟩ := hn
    rcases typesOf_allow htypes hopt hs with rfl | ⟨type, htype, hv⟩
    · cases hfound
      exact .inl rfl
    · obtain ⟨m, hm, hy⟩ := hfound.exists_of_mem_left htype
      exact .inr ⟨m, mem_foldl_pushUnique.2 (.inl hm), planForType_accepts hA hy hv hself hs⟩
  · cases yields_pure.1 hn
    obtain ⟨w, hw, hsame⟩ := hself.literal values hl
    obtain ⟨m, hm, hv⟩ := literalNodes_accept hw hsame
    exact .inr ⟨m, mem_foldl_pushUnique.2 (.inl hm), hv⟩

theorem optionLocations_eq_nil {schema : List (String × Json)} {l : Location}
    (hopt : ∀ keyword ∈ optionKeywords, arrayAt schema keyword = none) :
    optionLocations schema l = [] := by
  refine List.flatMap_eq_nil_iff.2 fun k hk => ?_
  rw [hopt k hk]

theorem mem_optionLocations {schema : List (String × Json)} {l o : Location} {keyword : String}
    (hk : keyword ∈ optionKeywords) {options : List Json}
    (ho : arrayAt schema keyword = some options)
    (hmem : o ∈ elementLocations (l.push keyword) options) : o ∈ optionLocations schema l := by
  refine List.mem_flatMap.2 ⟨keyword, hk, ?_⟩
  rw [ho]
  exact hmem

/-- The node of an object schema accepts what the schema allows, if every part that is an object
allows the value as well. -/
theorem objectSchemaPlan_accepts (hA : A.Right hasFormat g Admitted)
    {schema : List (String × Json)} {l : Location} {n : Node}
    (hn : Yields A (objectSchemaPlan schema l) n) {v : Json}
    (hself : Allows hasFormat Admitted l schema v)
    (hparts : ∀ p ∈ partLocations schema l, ∀ l' schema', A.schema p (l', .object schema') →
      Allows hasFormat Admitted l' schema' v) :
    Accepts (.lax hasFormat) g v n := by
  simp only [objectSchemaPlan, yields_bind, yields_askTypes,
    yields_askEach fun _ _ => yields_askSchema] at hn
  obtain ⟨found, hfound, options, hoptions, nodes, hnodes, hn⟩ := hn
  have hs : ∀ s ∈ (l, schema) :: found.filterMap source?, Allows hasFormat Admitted s.1 s.2 v := by
    intro s hmem
    rcases List.mem_cons.1 hmem with rfl | hmem
    · exact hself
    · obtain ⟨⟨l', w⟩, hw, hsource⟩ := List.mem_filterMap.1 hmem
      cases w <;> cases hsource
      obtain ⟨p, hp, hschema⟩ := hfound.exists_of_mem_right hw
      exact hparts p hp _ _ hschema
  refine combine_accepts hA hn ?_
  by_cases hopt : ∀ keyword ∈ optionKeywords, arrayAt schema keyword = none
  · rw [optionLocations_eq_nil hopt] at hoptions
    cases hoptions
    exact (ownPlan_accepts hA hnodes hopt hs).imp (fun h => ⟨rfl, h⟩) .inr
  · push Not at hopt
    obtain ⟨keyword, hk, hne⟩ := hopt
    obtain ⟨choices, hchoices⟩ := Option.ne_none_iff_exists'.1 hne
    obtain ⟨o, ho, hv⟩ := hself.options keyword hk choices hchoices
    obtain ⟨t, ht, hot⟩ := hoptions.exists_of_mem_left (mem_optionLocations hk hchoices ho)
    exact .inr (.inl ⟨t, ht, hA.type o t v hot hv⟩)

end JsonTypes.Materialize
