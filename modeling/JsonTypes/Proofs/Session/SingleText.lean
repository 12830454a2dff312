import JsonTypes.Proofs.Schema.Trimming
import JsonTypes.Proofs.Session.Collection

/-!
# The one text of all schemas

The sources of schemas have one text if each has a text and the texts are the same when they are
trimmed; that is what they are trimmed to (`singleText_eq_some_iff`). So the one text holds the
document of each source as far as the texts may be trimmed (`Schema.Trimmable`), and no further:
texts with one text between their blanks may hold different documents.
-/

namespace JsonTypes

namespace Schema

/-- A text holds the document that another holds, wherever that is. -/
def StandsFor (t text : String) : Prop :=
  ∀ address v, parse address text = .ok v → parse address t = .ok v

/-- Two texts hold different documents. -/
def Disagree (text text' : String) : Prop :=
  ∃ address address' v v', parse address text = .ok v ∧ parse address' text' = .ok v' ∧ v ≠ v'

theorem Trimmable.standsFor {text : String} (h : Trimmable text) :
    StandsFor (Text.trimmed text) text := fun _ _ hparse => parse_trimmed h hparse

/-- Texts that one text stands for hold one document at most. -/
theorem StandsFor.agree {t text text' : String} (h : StandsFor t text) (h' : StandsFor t text') :
    ¬Disagree text text' := by
  rintro ⟨address, address', v, v', hv, hv', hne⟩
  obtain ⟨hread, -⟩ := parse_eq_ok_iff.1 (h address v hv)
  obtain ⟨hread', -⟩ := parse_eq_ok_iff.1 (h' address' v' hv')
  exact hne (Except.ok.inj (hread.symm.trans hread'))

theorem ok_of_toOption {ε α : Type} {x : Except ε α} {a : α} (h : x.toOption = some a) :
    x = .ok a := by
  cases x <;> cases h
  rfl

theorem Disagree.of_toOption (address : DocumentId) (v v' : Json) {text text' : String}
    (h : (parse address text).toOption = some v) (h' : (parse address text').toOption = some v')
    (hne : v ≠ v') : Disagree text text' :=
  ⟨address, address, v, v', ok_of_toOption h, ok_of_toOption h', hne⟩

end Schema

namespace SchemaSources

theorem mapM_eq_some_iff {α β : Type} {f : α → Option β} {xs : List α} {ys : List β} :
    xs.mapM f = some ys ↔ xs.map f = ys.map some := by
  induction xs generalizing ys with
  | nil => cases ys <;> simp
  | cons x xs ih =>
    rw [List.mapM_cons]
    rcases ys with _ | ⟨y, ys⟩
    · simp [Option.bind_eq_some_iff]
    · simp [Option.bind_eq_some_iff, ih]

section SingleText

variable {s : SchemaSources} {t : String}

/-- All texts are one text between its blanks. -/
def OneText (t : String) (texts : List String) : Prop :=
  texts ≠ [] ∧ ∀ text ∈ texts, Text.trimmed text = t

theorem oneText_iff {texts : List String} : (match texts.map Text.trimmed with
    | [] => none
    | text :: rest => if rest.all (· = text) then some text else none) = some t ↔
    OneText t texts := by
  unfold OneText
  rcases texts with _ | ⟨text, rest⟩
  · simp
  · simp only [List.map_cons, Option.ite_none_right_eq_some, List.all_map, List.all_eq_true,
      Function.comp_apply, decide_eq_true_eq, Option.some.injEq, List.forall_mem_cons]
    constructor
    · rintro ⟨hrest, rfl⟩
      exact ⟨List.cons_ne_nil text rest, rfl, hrest⟩
    · rintro ⟨-, rfl, hrest⟩
      exact ⟨hrest, rfl⟩

/-- The single text is what the texts of all sources are trimmed to. -/
theorem singleText_eq_some_iff : s.singleText = some t ↔ s.sources ≠ [] ∧
    ∀ e ∈ s.sources, ∃ text, e.2.schema = some text ∧ Text.trimmed text = t := by
  refine Option.bind_eq_some_iff.trans ?_
  constructor
  · rintro ⟨texts, htexts, ht⟩
    rw [mapM_eq_some_iff] at htexts
    obtain ⟨hne, hone⟩ := oneText_iff.1 ht
    refine ⟨?_, fun e he => ?_⟩
    · rintro hnil
      rw [hnil] at htexts
      exact hne (List.map_eq_nil_iff.1 htexts.symm)
    · obtain ⟨text, hmem, htext⟩ := List.mem_map.1 (htexts ▸ List.mem_map_of_mem he)
      exact ⟨text, htext.symm, hone text hmem⟩
  · rintro ⟨hne, hall⟩
    refine ⟨s.sources.map fun e => e.2.schema.getD "", ?_, oneText_iff.2 ⟨?_, fun text hmem => ?_⟩⟩
    · rw [mapM_eq_some_iff, List.map_map]
      refine List.map_congr_left fun e he => ?_
      obtain ⟨text, htext, -⟩ := hall e he
      rw [Function.comp_apply, htext, Option.getD_some]
    · exact fun hnil => hne (List.map_eq_nil_iff.1 hnil)
    · obtain ⟨e, he, rfl⟩ := List.mem_map.1 hmem
      obtain ⟨text, htext, ht⟩ := hall e he
      rwa [htext]

theorem addressesOf_ne_nil (e : SchemaSource × Nat) : addressesOf e ≠ [] := by
  unfold addressesOf urisOf
  split
  · exact List.cons_ne_nil _ _
  · simpa using ‹_›

theorem Holds.mem_sources {taken : List SchemaSource} {source : SchemaSource} (h : Holds taken s) :
    (∃ uri, (uri, source) ∈ s.sources) ↔ source ∈ taken := by
  rw [h.sources]
  constructor
  · rintro ⟨uri, hmem⟩
    obtain ⟨e, he, hmem⟩ := List.mem_flatMap.1 hmem
    obtain ⟨_, -, heq⟩ := List.mem_map.1 hmem
    cases heq
    exact List.fst_mem_of_mem_zipIdx he
  · intro hmem
    obtain ⟨i, hi⟩ := List.mem_iff_getElem?.1 hmem
    obtain ⟨uri, huri⟩ := List.exists_mem_of_ne_nil _ (addressesOf_ne_nil (source, i + 1))
    refine ⟨uri, List.mem_flatMap.2 ⟨(source, i + 1), ?_, List.mem_map_of_mem huri⟩⟩
    exact List.mk_mem_zipIdx_iff_le_and_getElem?_sub.2 ⟨Nat.le_add_left 1 i, hi⟩

end SingleText

/-- Two sources, of which one has the text of the other trimmed. -/
def textAndTrimmed (text : String) : List SchemaSource :=
  [⟨"A", none, some text, none⟩, ⟨"B", none, some (Text.trimmed text), none⟩]

/-- Every source that is taken, and no other, is one of those that the single text stands for as far
as their texts may be trimmed. There is no single text if a source has none, or if two sources hold
different documents. -/
theorem singleText_stands_for_taken (backing : Option SchemaStore)
    (producers : List AttributeProducer) (sources : List SchemaSource) :
    let s := addEach sources (.new backing producers)
    (∀ source, (∃ uri, (uri, source) ∈ s.sources) ↔ source ∈ sources ∧ source.isComplete = true) ∧
      (∀ t, s.singleText = some t → ∀ e ∈ s.sources, ∃ text, e.2.schema = some text ∧
        t = Text.trimmed text ∧ (Schema.Trimmable text → Schema.StandsFor t text)) ∧
      (∀ e ∈ s.sources, e.2.schema = none → s.singleText = none) ∧
      ∀ e ∈ s.sources, ∀ e' ∈ s.sources, ∀ text text', e.2.schema = some text →
        e'.2.schema = some text' → Schema.Trimmable text → Schema.Trimmable text' →
        Schema.Disagree text text' → s.singleText = none := by
  intro s
  have hholds : Holds (sources.filter (·.isComplete)) s := holds_addEach backing producers sources
  have hstands (t : String) (ht : s.singleText = some t) (e : SchemaUri × SchemaSource)
      (he : e ∈ s.sources) : ∃ text, e.2.schema = some text ∧ t = Text.trimmed text ∧
        (Schema.Trimmable text → Schema.StandsFor t text) := by
    obtain ⟨text, htext, rfl⟩ := (singleText_eq_some_iff.1 ht).2 e he
    exact ⟨text, htext, rfl, Schema.Trimmable.standsFor⟩
  refine ⟨fun source => hholds.mem_sources.trans List.mem_filter, hstands, fun e he hnone => ?_,
    fun e he e' he' text text' htext htext' htrim htrim' hdisagree => ?_⟩
  · refine Option.eq_none_iff_forall_ne_some.2 fun t ht => ?_
    obtain ⟨text, htext, -⟩ := hstands t ht e he
    cases hnone.symm.trans htext
  · refine Option.eq_none_iff_forall_ne_some.2 fun t ht => ?_
    obtain ⟨_, heq, -, hstand⟩ := hstands t ht e he
    obtain ⟨_, heq', -, hstand'⟩ := hstands t ht e' he'
    cases htext.symm.trans heq
    cases htext'.symm.trans heq'
    exact (hstand htrim).agree (hstand' htrim') hdisagree

/-- Two sources have one text where only line breaks are trimmed, and none if one has no text or
they hold different documents. -/
theorem singleText_stands_for_broken_lines :
    (addEach (textAndTrimmed "\ntype: object\n") (.new none [])).singleText = some "type: object" ∧
      Schema.StandsFor "type: object" "\ntype: object\n" ∧
      Schema.parse (.synthetic 1) "\ntype: object\n" =
        .ok (.object [("type", .string "object")]) ∧
      (addEach [⟨"A", some ["a.json"], none, none⟩] (.new none [])).singleText = none ∧
      (addEach [⟨"A", none, some "true", none⟩, ⟨"B", none, some "false", none⟩]
        (.new none [])).singleText = none := by
  refine ⟨by decide +kernel, ?_, Schema.ok_of_toOption (by decide +kernel), ?_, ?_⟩
  · have htrim : Schema.Trimmable "\ntype: object\n" := by
      have hblank : ∀ c ∈ ['\n'], Json.isBlank c = true := by simp [Json.isBlank]
      refine .yaml ['\n'] ['\n'] (by decide +kernel) hblank hblank ?_
        (.inr (.of_not_mem (Schema.visible_trim _) (by decide +kernel) (by decide +kernel)))
      rintro c ⟨⟩
      exact .inl rfl
    obtain ⟨hrecorded, hstands, -⟩ :=
      singleText_stands_for_taken none [] (textAndTrimmed "\ntype: object\n")
    obtain ⟨uri, hmem⟩ := (hrecorded ⟨"A", none, some "\ntype: object\n", none⟩).2
      ⟨List.mem_cons_self, by decide⟩
    obtain ⟨text, htext, -, hstand⟩ := hstands "type: object" (by decide +kernel) _ hmem
    cases htext
    exact hstand htrim
  · obtain ⟨hrecorded, -, hnone, -⟩ :=
      singleText_stands_for_taken none [] [⟨"A", some ["a.json"], none, none⟩]
    obtain ⟨uri, hmem⟩ := (hrecorded ⟨"A", some ["a.json"], none, none⟩).2
      ⟨List.mem_cons_self, by decide⟩
    exact hnone _ hmem rfl
  · obtain ⟨hrecorded, -, -, hdisagree⟩ := singleText_stands_for_taken none []
      [⟨"A", none, some "true", none⟩, ⟨"B", none, some "false", none⟩]
    obtain ⟨uri, hmem⟩ := (hrecorded ⟨"A", none, some "true", none⟩).2
      ⟨List.mem_cons_self, by decide⟩
    obtain ⟨uri', hmem'⟩ := (hrecorded ⟨"B", none, some "false", none⟩).2
      ⟨List.mem_cons_of_mem _ List.mem_cons_self, by decide⟩
    have hjson (b : Bool) : Json.parse (if b then "true" else "false") = .ok (.bool b) :=
      Schema.ok_of_toOption (by cases b <;> decide +kernel)
    exact hdisagree _ hmem _ hmem' "true" "false" rfl rfl (.json (hjson true)) (.json (hjson false))
      (.of_toOption (.synthetic 1) (.bool true) (.bool false) (by decide +kernel)
        (by decide +kernel) (by decide))

/-- The single text of a text and of what it is trimmed to holds another document than the text. -/
def Misrepresents (text : String) : Prop :=
  let s := addEach (textAndTrimmed text) (.new none [])
  s.sources.map (·.2) = textAndTrimmed text ∧ s.singleText = some (Text.trimmed text) ∧
    Schema.Disagree text (Text.trimmed text) ∧ ¬Schema.StandsFor (Text.trimmed text) text

/-- What a text is trimmed to is the single text of both, so it must hold the same document. -/
theorem Misrepresents.of_disagree {text : String}
    (hdisagree : Schema.Disagree text (Text.trimmed text)) : Misrepresents text := by
  have hsources : (addEach (textAndTrimmed text) (.new none [])).sources =
      [((SchemaUri.parse "").withDocument (.synthetic 1), ⟨"A", none, some text, none⟩),
        ((SchemaUri.parse "").withDocument (.synthetic 2),
          ⟨"B", none, some (Text.trimmed text), none⟩)] := rfl
  refine ⟨?_, singleText_eq_some_iff.2 ⟨?_, ?_⟩, hdisagree,
    fun hstands => hstands.agree (fun _ _ => id) hdisagree⟩
  · rw [hsources]
    rfl
  · rw [hsources]
    exact List.cons_ne_nil _ _
  · rw [hsources]
    simp [Text.trimmed_trimmed]

/-- A text that is trimmed may lose its indentation, a character of a scalar, or the line break
behind a block scalar. -/
theorem singleText_misrepresents : Misrepresents " title:\n type: object\n" ∧
    Misrepresents "\u00a0type: object" ∧ Misrepresents "title: |\n  x\n" := by
  refine ⟨.of_disagree ?_, .of_disagree ?_, .of_disagree ?_⟩
  · exact .of_toOption (.synthetic 1) (.object [("title", .null), ("type", .string "object")])
      (.object [("title", .object [("type", .string "object")])]) (by decide +kernel)
      (by decide +kernel) (by decide +kernel)
  · exact .of_toOption (.synthetic 1) (.object [("\u00a0type", .string "object")])
      (.object [("type", .string "object")]) (by decide +kernel)
      (by decide +kernel) (by decide +kernel)
  · exact .of_toOption (.synthetic 1) (.object [("title", .string "x\n")])
      (.object [("title", .string "x")]) (by decide +kernel)
      (by decide +kernel) (by decide +kernel)

end SchemaSources

end JsonTypes
