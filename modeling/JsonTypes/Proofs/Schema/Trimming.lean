import JsonTypes.Proofs.Json.Surroundings
import JsonTypes.Proofs.Schema.NormalForm
import JsonTypes.Proofs.Yaml.Surroundings
import JsonTypes.Schema.Document

/-!
# Schema texts without the blanks at their ends

A schema that is JSON is the same schema when the text is trimmed. To YAML the blanks at the ends of
a text may mean something: those in front of the first line are its indentation, a block scalar at
the end of the text has the blanks behind it, and what is no blank of JSON may be part of a plain
scalar. A text that has none of these is the same schema too (`Schema.parse_trimmed`).
-/

namespace JsonTypes

/-! ## Blanks at the ends -/

namespace Text

theorem head?_trim {cs : List Char} {c : Char} (h : c ∈ (trim cs).head?) : isBlank c = false := by
  have hfront : trim cs <+: (cs.dropWhile isBlank).reverse.reverse :=
    List.reverse_prefix.2 (List.dropWhile_suffix isBlank)
  rw [List.reverse_reverse] at hfront
  have hhead := List.head?_dropWhile_not isBlank cs
  rcases htrim : trim cs with _ | ⟨d, ds⟩
  · rw [htrim] at h
    cases h
  · rw [htrim] at h hfront
    cases h
    obtain ⟨rest, hrest⟩ := hfront
    rw [← hrest] at hhead
    exact hhead

/-- A text is what is trimmed between the blanks at its ends. -/
theorem exists_trim (cs : List Char) : ∃ lead trail, cs = lead ++ trim cs ++ trail ∧
    (∀ c ∈ lead, isBlank c = true) ∧ ∀ c ∈ trail, isBlank c = true := by
  have htaken {ds : List Char} : ∀ c ∈ ds.takeWhile isBlank, isBlank c = true :=
    fun c hc => List.mem_takeWhile_imp hc
  refine ⟨cs.takeWhile isBlank, ((cs.dropWhile isBlank).reverse.takeWhile isBlank).reverse, ?_,
    htaken, fun c hc => htaken c (List.mem_reverse.1 hc)⟩
  rw [trim, List.append_assoc, ← List.reverse_append, List.takeWhile_append_dropWhile,
    List.reverse_reverse, List.takeWhile_append_dropWhile]

theorem isBlank_of_isGap {c : Char} (h : Yaml.isGap [c] = true) : isBlank c = true := by
  simp only [Yaml.isGap, Yaml.isBlank, Yaml.isBreak, Bool.or_eq_true, decide_eq_true_eq] at h
  rcases h with (rfl | rfl) | ((((rfl | rfl) | rfl) | rfl) | rfl) <;> decide

/-- A text without the blanks at its ends. -/
def trimmed (text : String) : String := String.ofList (trim text.toList)

theorem trimmed_trimmed (text : String) : trimmed (trimmed text) = trimmed text := by
  have htrim : trim (trim text.toList) = trim text.toList :=
    trim_eq_self (fun _ => head?_trim) fun _ => getLast?_trim
  rw [trimmed, trimmed, String.toList_ofList, htrim]

end Text

namespace Schema

variable {address : DocumentId} {text : String} {v : Json}

theorem parse_eq_ok_iff : parse address text = .ok v ↔ read text = .ok v ∧ problem? v = none := by
  change (((read text).mapError (.invalidDocument address.text)).bind fun document =>
    (validate address document).bind fun _ => .ok document) = .ok v ↔ _
  rcases hread : read text with e | document
  · exact ⟨nofun, nofun⟩
  · change ((validate address document).bind fun _ => .ok document) = .ok v ↔ _
    unfold validate
    rcases hproblem : problem? document with _ | reason
    · constructor
      · rintro ⟨⟩
        exact ⟨rfl, hproblem⟩
      · rintro ⟨⟨⟩, -⟩
        rfl
    · refine ⟨nofun, ?_⟩
      rintro ⟨⟨⟩, hnone⟩
      cases hproblem.symm.trans hnone

theorem read_of_json (h : Json.parse text = .ok v) : read text = .ok v := by
  rw [read, h]

theorem read_of_yaml (hjson : ∀ v, Json.parse text ≠ .ok v) (h : Yaml.parse? text = some v) :
    read text = .ok v := by
  rcases htext : Json.parse text with reason | document
  · rw [read, htext, h]
  · exact absurd htext (hjson document)

theorem yaml_of_read (hjson : ∀ v, Json.parse text ≠ .ok v) (h : read text = .ok v) :
    Yaml.parse? text = some v := by
  rcases htext : Json.parse text with reason | document
  · rw [read, htext] at h
    rcases hyaml : Yaml.parse? text with _ | w <;> rw [hyaml] at h
    · cases h
    · cases h
      rfl
  · exact absurd htext (hjson document)

/-- The blanks at the ends of a text mean nothing: it is JSON, or they are blanks of JSON that end
with a line in front of the text, and behind it they follow no block scalar. -/
inductive Trimmable (text : String) : Prop
  | json {v : Json} : Json.parse text = .ok v → Trimmable text
  | yaml (lead trail : List Char) : text.toList = lead ++ (Text.trim text.toList ++ trail) →
      (∀ c ∈ lead, Json.isBlank c = true) → (∀ c ∈ trail, Json.isBlank c = true) →
      Yaml.EndsLine lead → (trail = [] ∨ Yaml.BlockScalarsEnd (Text.trim text.toList)) →
      Trimmable text

theorem visible_trim (cs : List Char) :
    ∀ c, (Text.trim cs).getLast? = some c → Yaml.isGap [c] = false := by
  intro c hc
  by_contra hgap
  have hblank := Text.isBlank_of_isGap (Bool.of_not_eq_false hgap)
  cases hblank.symm.trans (Text.getLast?_trim hc)

theorem json_trimmed (h : Json.parse text = .ok v) : Json.parse (Text.trimmed text) = .ok v := by
  obtain ⟨lead, trail, hsplit, hlead, htrail⟩ := Text.exists_trim text.toList
  rw [← String.ofList_toList (s := text), hsplit] at h
  exact Json.parse_of_surrounded hlead htrail h

theorem yaml_trimmed {lead trail : List Char}
    (hsplit : text.toList = lead ++ (Text.trim text.toList ++ trail))
    (hlead : ∀ c ∈ lead, Json.isBlank c = true) (htrail : ∀ c ∈ trail, Json.isBlank c = true)
    (hends : Yaml.EndsLine lead)
    (hclose : trail = [] ∨ Yaml.BlockScalarsEnd (Text.trim text.toList))
    (h : Yaml.parse? text = some v) : Yaml.parse? (Text.trimmed text) = some v := by
  rw [← String.ofList_toList (s := text), hsplit] at h
  rcases htrim : Text.trim text.toList with _ | ⟨c, cs⟩
  · -- A text of blanks alone has all of them behind it.
    rw [htrim, List.nil_append] at h
    rw [Text.trimmed, htrim]
    have hblank : ∀ c ∈ lead ++ trail, Json.isBlank c = true :=
      List.forall_mem_append.2 ⟨hlead, htrail⟩
    have hvisible := visible_trim text.toList
    rw [htrim] at hvisible
    exact Yaml.parse?_of_surrounded (List.forall_mem_nil _) hblank .nil (absurd rfl) hvisible
      (.inr .nil) h
  · refine Yaml.parse?_of_surrounded hlead htrail hends (fun _ hfirst => ?_)
      (visible_trim text.toList) hclose h
    have hhead : c ∈ (Text.trim text.toList).head? := by
      rw [htrim]
      rfl
    have hblank := Text.head?_trim hhead
    rw [htrim] at hfirst
    rw [Option.some.inj hfirst] at hblank
    cases hblank

/-- A text whose blanks at its ends mean nothing is the same schema when it is trimmed. -/
theorem parse_trimmed (h : Trimmable text) (hparse : parse address text = .ok v) :
    parse address (Text.trimmed text) = .ok v := by
  obtain ⟨hread, hproblem⟩ := parse_eq_ok_iff.1 hparse
  refine parse_eq_ok_iff.2 ⟨?_, hproblem⟩
  by_cases hjson : ∃ w, Json.parse text = .ok w
  · obtain ⟨w, hw⟩ := hjson
    cases hread.symm.trans (read_of_json hw)
    exact read_of_json (json_trimmed hw)
  · replace hjson (w : Json) : Json.parse text ≠ .ok w := fun hw => hjson ⟨w, hw⟩
    cases h with
    | json hw => exact absurd hw (hjson _)
    | yaml lead trail hsplit hlead htrail hends hclose =>
      have hyaml := yaml_trimmed hsplit hlead htrail hends hclose (yaml_of_read hjson hread)
      refine read_of_yaml (fun w hw => hjson w ?_) hyaml
      have hsurrounded := Json.parse_surrounded hlead htrail hw
      rwa [List.append_assoc, ← hsplit, String.ofList_toList] at hsurrounded

end Schema

end JsonTypes
