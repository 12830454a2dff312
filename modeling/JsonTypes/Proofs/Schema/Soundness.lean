import JsonTypes.Proofs.Schema.Acceptance
import JsonTypes.Proofs.Schema.Slots

/-!
# Admitted values conform to the materialized type

After a run that succeeds no slot is open, so every location that has a type is done. By induction
over why a value is admitted, whatever cycles the types have, the value conforms to the type of
the location (`Sound.conforms`). For a top level this is the main statement
(`conforms_of_admits`).

An induction that only followed the types would not do. A schema is asked what its parts make of
the value beside their own types, so what is carried along is both: that the value conforms, and
that the rules at the end of the location's references allow it (`Fits.rules`).
-/

namespace JsonTypes.Materialize

variable {hasFormat : StringFormat → String → Prop} {docs : Documents} {s : State Graph}

/-- Every type that the location has in a state has the value. -/
def Typed (hasFormat : StringFormat → String → Prop) (s : State Graph) (l : Location) (v : Json) :
    Prop :=
  ∀ t, s.answers.type l t → Conforms (.lax hasFormat) s.sink v t

/-- The location's types have the value, and the rules that its references lead to allow it. -/
structure Fits (hasFormat : StringFormat → String → Prop) (docs : Documents) (s : State Graph)
    (l : Location) (v : Json) : Prop where
  typed : Typed hasFormat s l v
  rules : ∀ l' schema, docs.Leads l l' → docs.schemaAt? l' = some (.object schema) →
    Allows hasFormat (Typed hasFormat s) l' schema v

theorem Sound.right (hs : Sound (fun _ => False) s) :
    s.answers.Right hasFormat s.sink (Typed hasFormat s) where
  shared n t ht := hs.exact n t ht
  type _ t _ ht hv := hv t ht

theorem eq_of_leads {l l' : Location} {schema : Json} (hschema : docs.schemaAt? l = some schema)
    (hr : reference? schema = none) (hl : docs.Leads l l') : l' = l :=
  hl.unique (.here hschema hr)

/-- The type of a location without a reference is its slot, which holds what its plan yields. -/
theorem Sound.node_of_type (hs : Sound (fun _ => False) s)
    (hdocs : s.resolver.known.Extends docs) {l : Location} {t : TypeRef} {schema : Json}
    (hschema : docs.schemaAt? l = some schema) (hr : reference? schema = none)
    (ht : s.answers.type l t) :
    ∃ n, (planFor schema l).Yields s.answers n ∧ s.sink.node? t = some n := by
  obtain ⟨l', hl, hc⟩ := ht
  have he := eq_of_leads hschema hr (hl.mono hdocs)
  subst he
  obtain ⟨schema', n, hs', hy, hn⟩ := (hs.done l' t hc).resolve_left id
  have hsame := hschema.symm.trans (hdocs.schemaAt? hs')
  cases hsame
  exact ⟨n, hy, hn⟩

theorem Sound.fits (hs : Sound (fun _ => False) s) (hdocs : s.resolver.known.Extends docs)
    {l : Location} {v : Json} (h : Admits hasFormat docs l v) : Fits hasFormat docs s l v := by
  induction h with
  | @any l v hschema =>
    refine ⟨fun t ht => ?_, fun l' schema hl hs' => ?_⟩
    · obtain ⟨n, hy, hn⟩ := hs.node_of_type hdocs hschema rfl ht
      cases Plan.yields_pure.1 hy
      exact .any hn
    · rw [eq_of_leads hschema rfl hl, hschema] at hs'
      cases hs'
  | @alias_ l v schema reference target hschema hr htarget _ ih =>
    refine ⟨fun t ht => ?_, fun l' schema' hl hs' => ?_⟩
    · obtain ⟨l', hl, hc⟩ := ht
      exact ih.typed t ⟨l', hl.of_reference hdocs hschema hr htarget, hc⟩
    · exact ih.rules l' schema' (hl.of_reference (.refl docs) hschema hr htarget) hs'
  | @object l v schema Admitted hschema hr hallows _ ih =>
    have hself : Allows hasFormat (Typed hasFormat s) l schema v :=
      hallows.mono fun l' v' hv => (ih l' v' hv).typed
    refine ⟨fun t ht => ?_, fun l' schema' hl hs' => ?_⟩
    · obtain ⟨n, hy, hn⟩ := hs.node_of_type hdocs hschema hr ht
      refine (objectSchemaPlan_accepts hs.right hy hself fun p hp l' schema' hp' => ?_).conforms hn
      unfold partLocations at hp
      rcases ha : arrayAt schema "allOf" with _ | parts <;> simp only [ha] at hp
      · cases hp
      · exact (ih p v (hallows.parts parts ha p hp)).rules l' schema' (hp'.1.mono hdocs)
          (hdocs.schemaAt? hp'.2)
    · rw [eq_of_leads hschema hr hl, hschema] at hs'
      cases hs'
      rw [eq_of_leads hschema hr hl]
      exact hself

/-! ## Top levels -/

section TopLevels

variable {producers : List AttributeProducer} {steps : Nat}

theorem Sound.addTopLevel {isOpen : Location → Prop} (hs : Sound isOpen s) (name : String)
    (t : TypeRef) : Sound isOpen { s with sink := (Graph.addTopLevel name t s.sink).2 } where
  exact := hs.exact
  lt_size := hs.lt_size
  apart := hs.apart
  unique := hs.unique
  done := hs.done

theorem grows_addTopLevel (name : String) (t : TypeRef) (s : State Graph) :
    s.Grows { s with sink := (Graph.addTopLevel name t s.sink).2 } :=
  ⟨.refl _, fun _ _ h => h, fun _ _ h => h, .refl _⟩

theorem convertTopLevels_cons (name : String) (l : Location) (rest : List (String × Location)) :
    convertTopLevels producers steps ((name, l) :: rest) s =
      match convert producers steps l s with
      | (.error e, s') => (.error e, s')
      | (.ok t, s') => convertTopLevels producers steps rest
          { s' with sink := (Graph.addTopLevel name t s'.sink).2 } := by
  rcases h : convert producers steps l s with ⟨e | t, s'⟩
  · exact Action.bind_error h
  · exact Action.bind_ok h

/-- After top levels that succeed, no slot is open and every name has a type of its location. -/
theorem convertTopLevels_sound : ∀ (topLevels : List (String × Location)) {s s' : State Graph},
    Sound (fun _ => False) s → (topLevels.map (·.1)).Nodup →
      convertTopLevels producers steps topLevels s = (.ok (), s') →
        s.Grows s' ∧ Sound (fun _ => False) s' ∧
        (∀ name, name ∉ topLevels.map (·.1) → s'.sink.topLevel? name = s.sink.topLevel? name) ∧
        ∀ name l, (name, l) ∈ topLevels →
          ∃ t, s'.sink.topLevel? name = some t ∧ s'.answers.type l t
  | [], s, s', hs, _, h => by
    cases h
    exact ⟨.refl s, hs, fun _ _ => rfl, nofun⟩
  | (name, l) :: rest, s, s', hs, hn, h => by
    obtain ⟨hname, hrest⟩ := List.nodup_cons.1 hn
    have hconv := convert_sound producers steps _ l s hs
    rw [convertTopLevels_cons] at h
    rcases hc : convert producers steps l s with ⟨e | t, s₁⟩ <;> rw [hc] at h hconv
    · cases h
    · obtain ⟨hfollows, hok⟩ := hconv
      obtain ⟨hs₁, ht⟩ := hok t rfl
      obtain ⟨hgrows, hs', hothers, hnamed⟩ :=
        convertTopLevels_sound rest (hs₁.addTopLevel name t) hrest h
      have hadd : ∀ k, (Graph.addTopLevel name t s₁.sink).2.topLevel? k =
          if name = k then some t else s.sink.topLevel? k := fun k => by
        rw [Graph.topLevel?, Graph.topLevel?, ← hfollows.topLevels]
        exact Entries.get?_put _ _ _ _
      refine ⟨hfollows.toGrows.trans ((grows_addTopLevel name t s₁).trans hgrows), hs',
        fun k hk => ?_, fun k l' hmem => ?_⟩
      · rw [List.map_cons, List.mem_cons, not_or] at hk
        rw [hothers k hk.2]
        exact (hadd k).trans (if_neg (Ne.symm hk.1))
      · rcases List.mem_cons.1 hmem with he | hmem
        · cases he
          refine ⟨t, ?_, hgrows.answers.type _ _ ht⟩
          rw [hothers _ hname]
          exact (hadd _).trans (if_pos rfl)
        · exact hnamed k l' hmem

end TopLevels

/-- A run that succeeds gives every top level a type, and the type has every value that the schema
admits. What the documents of the run leave open may be filled in at will, and so may what it is to
have a format. -/
theorem conforms_of_admits {producers : List AttributeProducer} {steps : Nat}
    {topLevels : List (String × Location)} {r r' : Resolver} {g g' : Graph}
    (hg : g.Reachable) (hnames : (topLevels.map (·.1)).Nodup)
    (h : run steps producers topLevels r g = (.ok (), r', g'))
    (hdocs : r'.known.Extends docs) (hasFormat : StringFormat → String → Prop)
    {name : String} {l : Location} (hl : (name, l) ∈ topLevels) :
    ∃ t, g'.topLevel? name = some t ∧
      ∀ v, Admits hasFormat docs l v → Conforms (.lax hasFormat) g' v t := by
  have hstart : Sound (fun _ => False) ⟨r, g, []⟩ := ⟨hg.exact, nofun, nofun, nofun, nofun⟩
  unfold run runInto at h
  rcases hc : convertTopLevels producers steps topLevels ⟨r, g, []⟩ with ⟨outcome, s'⟩
  rw [hc] at h
  cases h
  obtain ⟨-, hs', -, hnamed⟩ := convertTopLevels_sound topLevels hstart hnames hc
  obtain ⟨t, ht, htype⟩ := hnamed name l hl
  exact ⟨t, ht, fun v hv => (hs'.fits hdocs hv).typed t htype⟩

/-! ## Diaries -/

/-- A schema of diaries, each of which may have a day and a diary that comes next. -/
def diary : List (String × Json) :=
  [("properties", .object [("next", .object [("$ref", .string "#")]),
    ("day", .object [("type", .string "string"), ("format", .string "date")])])]

def diaryRoot : Location := .root ⟨"diary"⟩

/-- A resolver whose store has the schema of diaries everywhere. -/
def diaryResolver : Resolver := .new ⟨[], some fun _ _ => .ok (some (.object diary))⟩ []

def diaryRun : Except SchemaError Unit × Resolver × Graph :=
  run 8 [] [("Diary", diaryRoot)] diaryResolver .empty

theorem diary_allows {Admitted : Location → Json → Prop} {members : List (String × Json)}
    (h : ∀ k x, (k, x) ∈ members → k ∈ ["next", "day"] →
      Admitted ((diaryRoot.push "properties").push k) x) :
    Allows hasFormat Admitted diaryRoot diary (.object members) where
  literal values hv := by cases hv
  options keyword hk options ho := by
    simp only [optionKeywords, List.mem_cons, List.not_mem_nil, or_false] at hk
    rcases hk with rfl | rfl <;> cases ho
  parts parts hp := by cases hp
  declared types ht := by cases ht
  implied _ _ := ⟨"object", by decide, List.mem_singleton.2 rfl⟩
  properties ms hms k x hx hk := by
    cases hms
    exact h k x hx hk
  required ms _ names hn := by cases hn
  additional ms _ rest hr := by cases hr
  items xs hxs := by cases hxs
  entries xs hxs := by cases hxs
  format s hs := by cases hs

/-- A diary with a next one, which is empty, conforms to the type of diaries. -/
theorem conforms_of_admits_diary :
    diaryRun.1 = .ok () ∧
      Admits (fun _ _ => False) diaryRun.2.1.known diaryRoot (.object [("next", .object [])]) ∧
      ∃ t, diaryRun.2.2.topLevel? "Diary" = some t ∧
        Conforms (.lax fun _ _ => False) diaryRun.2.2 (.object [("next", .object [])]) t := by
  have hok : diaryRun.1 = .ok () := by decide +kernel
  have hroot : diaryRun.2.1.known.schemaAt? diaryRoot = some (.object diary) := by decide +kernel
  have hnext : diaryRun.2.1.known.schemaAt? ((diaryRoot.push "properties").push "next") =
      some (.object [("$ref", .string "#")]) := by decide +kernel
  have htarget : diaryRun.2.1.known.locate? (diaryRoot.document.resolve "#") = some diaryRoot := by
    decide +kernel
  have hempty : Admits (fun _ _ => False) diaryRun.2.1.known diaryRoot (.object []) :=
    .object (fun _ _ => False) hroot rfl (diary_allows nofun) nofun
  have hadmits : Admits (fun _ _ => False) diaryRun.2.1.known diaryRoot
      (.object [("next", .object [])]) := by
    refine .object (Admits (fun _ _ => False) diaryRun.2.1.known) hroot rfl
      (diary_allows fun k x hx _ => ?_) fun _ _ h => h
    cases List.mem_singleton.1 hx
    exact .alias_ hnext rfl htarget hempty
  have hrun : run 8 [] [("Diary", diaryRoot)] diaryResolver .empty =
      (.ok (), diaryRun.2.1, diaryRun.2.2) := Prod.ext hok (Prod.eta diaryRun.2).symm
  obtain ⟨t, ht, hconforms⟩ := conforms_of_admits ⟨[], Recorded.Built.empty⟩ (by decide) hrun
    (Documents.Extends.refl _) (fun _ _ => False) List.mem_cons_self
  exact ⟨hok, hadmits, t, ht, hconforms _ hadmits⟩

theorem day_allows {Admitted : Location → Json → Prop} (l : Location) (text : String) :
    Allows (fun _ _ => True) Admitted l [("type", .string "string"), ("format", .string "date")]
      (.string text) where
  literal values hv := by cases hv
  options keyword hk options ho := by
    simp only [optionKeywords, List.mem_cons, List.not_mem_nil, or_false] at hk
    rcases hk with rfl | rfl <;> cases ho
  parts parts hp := by cases hp
  declared types ht := by
    cases ht
    exact ⟨"string", List.mem_singleton.2 rfl, List.mem_singleton.2 rfl⟩
  implied ht := by cases ht
  properties ms hms := by cases hms
  required ms hms := by cases hms
  additional ms hms := by cases hms
  items xs hxs := by cases hxs
  entries xs hxs := by cases hxs
  format _ _ _ _ := trivial

/-- If types are read strictly, admitted values need not conform: nothing in a type of objects says
that other members are welcome, and a format says more in a type than in a schema whose rules leave
it out. -/
theorem not_conforms_strict_diary :
    diaryRun.1 = .ok () ∧ diaryRun.2.2.topLevel? "Diary" = some 0 ∧
      (Admits (fun _ _ => True) diaryRun.2.1.known diaryRoot (.object [("mood", .int 1)]) ∧
        ¬Conforms .strict diaryRun.2.2 (.object [("mood", .int 1)]) 0) ∧
      (Admits (fun _ _ => True) diaryRun.2.1.known diaryRoot (.object [("day", .string "soon")]) ∧
        ¬Conforms .strict diaryRun.2.2 (.object [("day", .string "soon")]) 0) := by
  have hroot : diaryRun.2.1.known.schemaAt? diaryRoot = some (.object diary) := by decide +kernel
  have hday : diaryRun.2.1.known.schemaAt? ((diaryRoot.push "properties").push "day") =
      some (.object [("type", .string "string"), ("format", .string "date")]) := by decide +kernel
  have h₀ : diaryRun.2.2.node? 0 =
      some (.object (.ofList [("next", ⟨0, true⟩), ("day", ⟨1, true⟩)])) := by decide +kernel
  have h₁ : diaryRun.2.2.node? 1 = some (.string (some .date)) := by decide +kernel
  refine ⟨by decide +kernel, by decide +kernel, ⟨?_, fun h => ?_⟩, ?_, fun h => ?_⟩
  · refine .object (fun _ _ => False) hroot rfl (diary_allows fun k x hx hk => ?_) nofun
    cases List.mem_singleton.1 hx
    exact absurd hk (by decide)
  · cases h with
    | object ht hclosed _ _ =>
      rw [h₀] at ht
      cases ht
      obtain ⟨p, hp⟩ := hclosed trivial "mood" (List.mem_singleton.2 rfl)
      have hnone : (SortedMap.ofList [("next", (⟨0, true⟩ : Property)), ("day", ⟨1, true⟩)]).get?
          "mood" = none := by decide
      rw [hnone] at hp
      cases hp
    | any ht | map ht _ | union ht _ _ =>
      rw [h₀] at ht
      cases ht
  · refine .object (Admits (fun _ _ => True) diaryRun.2.1.known) hroot rfl
      (diary_allows fun k x hx _ => ?_) fun _ _ h => h
    cases List.mem_singleton.1 hx
    exact .object (fun _ _ => False) hday rfl (day_allows _ _) nofun
  · cases h with
    | object ht _ hmembers _ =>
      rw [h₀] at ht
      cases ht
      have h := hmembers "day" (.string "soon") ⟨1, true⟩ (List.mem_singleton.2 rfl) (by decide)
      cases h with
      | format ht hf =>
        rw [h₁] at ht
        cases ht
        exact absurd hf (by decide +kernel : Temporal.detectFormat "soon" ≠ some .date)
      | any ht | string ht | enum ht _ | union ht _ _ =>
        rw [h₁] at ht
        cases ht
    | any ht | map ht _ | union ht _ _ =>
      rw [h₀] at ht
      cases ht

end JsonTypes.Materialize
