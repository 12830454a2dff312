import JsonTypes.Proofs.Schema.Spelling
import JsonTypes.Proofs.Session.Collection

/-!
# Documents without an address of their own

A source without an address for its document gets the synthetic document with its number. No other
source gets that one, so another source means it only by writing its address out
(`exists_synthetic_iff`). The text of a document is the last one that was written at it
(`Holds.get?_texts`), so the synthetic document keeps the text of its source unless a later source
that has a text writes its address out (`anonymous_keeps_document`); if one does, it may lose it
(`anonymous_loses_document`).
-/

namespace JsonTypes

/-- Whether some address of a source says nothing about the document. -/
def SchemaSource.IsAnonymous (source : SchemaSource) : Prop :=
  source.uris.getD [] = [] ∨ ∃ raw ∈ source.uris.getD [], (SchemaUri.parse raw).document.isEmpty

/-- Whether a source writes out the address of the synthetic document with this number. -/
def SchemaSource.Spells (n : Nat) (source : SchemaSource) : Prop :=
  ∃ raw ∈ source.uris.getD [], Address.Spells n raw

namespace SchemaSources

variable {taken : List SchemaSource} {source : SchemaSource} {s : SchemaSources}

/-- The synthetic documents among those of a source: its own if it has no address, and those whose
address it writes out. -/
theorem exists_synthetic_iff {other : SchemaSource} {m n : Nat} :
    (∃ uri ∈ addressesOf (other, m), uri.document = .synthetic n) ↔
      (other.IsAnonymous ∧ m = n) ∨ other.Spells n := by
  simp only [addressesOf, urisOf, SchemaSource.IsAnonymous, SchemaSource.Spells,
    ← Address.spells_iff]
  rcases other.uris.getD [] with _ | ⟨first, rest⟩
  · simp [SchemaUri.withDocument, Address.synthetic_inj]
  · simp only [List.mem_map, reduceCtorEq, false_or]
    constructor
    · rintro ⟨_, ⟨raw, hraw, rfl⟩, hd⟩
      split_ifs at hd with hempty
      · exact .inl ⟨⟨raw, hraw, hempty⟩, Address.synthetic_inj.1 hd⟩
      · exact .inr ⟨raw, hraw, hd⟩
    · rintro (⟨⟨raw, hraw, hempty⟩, rfl⟩ | ⟨raw, hraw, hd⟩)
      · exact ⟨_, ⟨raw, hraw, rfl⟩, by rw [if_pos hempty]; rfl⟩
      · refine ⟨_, ⟨raw, hraw, rfl⟩, ?_⟩
        rw [hd, Address.isEmpty_synthetic]
        exact hd

theorem mem_textsOf {e : SchemaSource × Nat} {p : DocumentId × String} (h : p ∈ textsOf e) :
    e.1.schema = some p.2 ∧ ∃ uri ∈ addressesOf e, uri.document = p.1 := by
  unfold textsOf at h
  rcases htext : e.1.schema with _ | text <;> simp only [htext] at h
  · cases h
  · obtain ⟨uri, huri, rfl⟩ := List.mem_map.1 h
    exact ⟨rfl, uri, huri, rfl⟩

theorem numbered_split {i : Nat} (h : taken[i]? = some source) :
    numbered taken = numbered (taken.take i) ++
      (source, i + 1) :: (taken.drop (i + 1)).zipIdx (i + 2) := by
  obtain ⟨hlt, hget⟩ := List.getElem?_eq_some_iff.1 h
  have hsplit : taken = taken.take i ++ source :: taken.drop (i + 1) := by
    rw [← hget, List.getElem_cons_drop, List.take_append_drop]
  have hlength : (taken.take i).length = i := List.length_take_of_le (Nat.le_of_lt hlt)
  unfold numbered
  conv_lhs => rw [hsplit]
  rw [List.zipIdx_append, hlength, List.zipIdx_cons, Nat.add_comm 1 i]

/-- A document has the text of a source that writes at it, if no later source does. -/
theorem Holds.get?_texts (h : Holds taken s) {i : Nat} (hi : taken[i]? = some source)
    {text : String} (htext : source.schema = some text) {d : DocumentId}
    (hd : ∃ uri ∈ addressesOf (source, i + 1), uri.document = d)
    (hlater : ∀ j other, i < j → taken[j]? = some other → other.schema ≠ none →
      ¬∃ uri ∈ addressesOf (other, j + 1), uri.document = d) :
    s.texts.get? d = some text := by
  -- The texts of the sources before it are overwritten, those of the sources behind it are elsewhere.
  rw [h.texts, numbered_split hi, List.flatMap_append, List.flatMap_cons, Entries.ofList,
    List.foldl_append, List.foldl_append, Entries.get?_foldl_put_of_not_mem]
  · obtain ⟨uri, huri, rfl⟩ := hd
    refine Entries.get?_foldl_put_of_mem ⟨(uri.document, text), ?_, rfl⟩ fun p hp _ => ?_
    · unfold textsOf
      rw [htext]
      exact List.mem_map.2 ⟨uri, huri, rfl⟩
    · exact Option.some.inj ((mem_textsOf hp).1.symm.trans htext)
  · intro p hp hkey
    obtain ⟨⟨other, n⟩, he, hp⟩ := List.mem_flatMap.1 hp
    obtain ⟨hother, hnames⟩ := mem_textsOf hp
    obtain ⟨hle, hget⟩ := List.mk_mem_zipIdx_iff_le_and_getElem?_sub.1 he
    rw [List.getElem?_drop] at hget
    have hj : i + 1 + (n - (i + 2)) + 1 = n := by omega
    refine hlater _ other (by omega) hget (Option.ne_none_iff_exists'.2 ⟨_, hother⟩) ?_
    rw [hj, ← hkey]
    exact hnames

/-- A source without an address for its document has the synthetic document with its number. Another
source has it only by writing its address out, and the document keeps the text of the source unless
a later source with a text does so. -/
theorem anonymous_keeps_document (backing : Option SchemaStore) (producers : List AttributeProducer)
    (sources : List SchemaSource) {i : Nat} {text : String}
    (hi : (sources.filter (·.isComplete))[i]? = some source) (htext : source.schema = some text)
    (hanonymous : source.IsAnonymous) :
    let taken := sources.filter (·.isComplete)
    let s := addEach sources (.new backing producers)
    s.sources = ((numbered taken).flatMap fun e => (addressesOf e).map fun uri => (uri, e.1)) ∧
      (∃ uri ∈ addressesOf (source, i + 1), uri.document = .synthetic (i + 1)) ∧
      (∀ j other, j ≠ i → taken[j]? = some other →
        ((∃ uri ∈ addressesOf (other, j + 1), uri.document = .synthetic (i + 1)) ↔
          other.Spells (i + 1))) ∧
      ((∀ j other, i < j → taken[j]? = some other → other.schema ≠ none →
        ¬other.Spells (i + 1)) → s.texts.get? (.synthetic (i + 1)) = some text) := by
  intro taken s
  have hholds : Holds taken s := holds_addEach backing producers sources
  have hown : ∃ uri ∈ addressesOf (source, i + 1), uri.document = .synthetic (i + 1) :=
    exists_synthetic_iff.2 (.inl ⟨hanonymous, rfl⟩)
  have hothers : ∀ j other, j ≠ i →
      ((∃ uri ∈ addressesOf (other, j + 1), uri.document = .synthetic (i + 1)) ↔
        other.Spells (i + 1)) := by
    intro j other hj
    rw [exists_synthetic_iff, or_iff_right]
    exact fun h => hj (Nat.succ.inj h.2)
  refine ⟨hholds.sources, hown, fun j other hj _ => hothers j other hj, fun hlater => ?_⟩
  refine hholds.get?_texts hi htext hown fun j other hj hother hschema hnames => ?_
  exact hlater j other hj hother hschema ((hothers j other (Nat.ne_of_gt hj)).1 hnames)

/-- A text without an address, between one that writes out a later number and one with a file. -/
def ownTexts : List SchemaSource :=
  [⟨"First", some ["./x/../-2"], some "{}", none⟩, ⟨"Second", none, some "true", none⟩,
    ⟨"Third", some ["a.json", "#/b"], some "false", none⟩]

/-- The second text stays where it is, though the first source writes the address of its document
out beforehand. -/
theorem anonymous_keeps_document_second :
    (addEach ownTexts (.new none [])).texts.get? (.synthetic 2) = some "true" := by
  have hsecond : (ownTexts.filter (·.isComplete))[1]? =
      some ⟨"Second", none, some "true", none⟩ := by
    decide
  refine (anonymous_keeps_document none [] ownTexts hsecond rfl (.inl rfl)).2.2.2 ?_
  intro j other hj hother _
  have hlength : (ownTexts.filter (·.isComplete)).length = 3 := by decide
  obtain ⟨hlt, -⟩ := List.getElem?_eq_some_iff.1 hother
  obtain rfl : j = 2 := by omega
  cases hother
  rintro ⟨raw, hraw, hspells⟩
  revert hspells
  rcases List.mem_cons.1 hraw with rfl | hraw
  · decide +kernel
  · cases List.mem_singleton.1 hraw
    decide +kernel

/-- The text of the first source, which has no address, is lost to a source that writes the address
of the first synthetic document out. -/
theorem anonymous_loses_document :
    let first : SchemaSource := ⟨"First", none, some "true", none⟩
    let second : SchemaSource := ⟨"Second", some ["-1"], some "false", none⟩
    first.isComplete ∧ second.isComplete ∧ first.IsAnonymous ∧
      (addEach [first, second] (.new none [])).texts.get? (.synthetic 1) = some "false" ∧
      ∃ uri ∈ addressesOf (second, 2), uri.document = .synthetic 1 := by
  refine ⟨by decide, by decide, .inl rfl, by decide +kernel, ?_⟩
  exact exists_synthetic_iff.2 (.inr ⟨"-1", List.mem_cons_self, by decide +kernel⟩)

end SchemaSources

end JsonTypes
