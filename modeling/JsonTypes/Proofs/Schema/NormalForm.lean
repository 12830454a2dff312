import Mathlib.Data.List.TakeWhile
import JsonTypes.Proofs.Schema.DotSegments
import JsonTypes.Proofs.Url.Printed

/-!
# Addresses in normal form

A document's address is normalized once, when it is read or when a reference is resolved. Reading
its text again gives the same address if that text does not start with a blank and does not read
as a URL that is printed differently (`DocumentId.parse_text_iff`). Blanks are taken away before
dot segments are, and whether a text is a URL is asked before too, so that a dot segment can hide
either from the first reading.

What is known about URLs is that one that is read prints to a text that reads as a URL that is
printed the same (`Url.Rereads`); it is asked only of the URL that the address is printed from.
-/

namespace JsonTypes

/-! ## Blanks -/

namespace Text

theorem trim_cons {c : Char} (h : isBlank c = true) (cs : List Char) : trim (c :: cs) = trim cs := by
  rw [trim, trim, List.dropWhile_cons_of_pos h]

theorem trim_eq_self {cs : List Char} (hhead : ∀ c ∈ cs.head?, isBlank c = false)
    (hlast : ∀ c ∈ cs.getLast?, isBlank c = false) : trim cs = cs := by
  have hfront {cs : List Char} (h : ∀ c ∈ cs.head?, isBlank c = false) :
      cs.dropWhile isBlank = cs := by
    rcases cs with _ | ⟨c, cs⟩
    · rfl
    · exact List.dropWhile_cons_of_neg (by simp [h c rfl])
  rw [trim, hfront hhead, hfront, List.reverse_reverse]
  intro c hc
  exact hlast c (by rwa [List.head?_reverse] at hc)

theorem getLast?_trim {cs : List Char} {c : Char} (h : c ∈ (trim cs).getLast?) :
    isBlank c = false := by
  rw [trim, List.getLast?_reverse] at h
  have hc := List.head?_dropWhile_not isBlank (cs.dropWhile isBlank).reverse
  rw [Option.mem_def.1 h] at hc
  exact hc

theorem trim_sublist (cs : List Char) : (trim cs).Sublist cs := by
  have h := (List.dropWhile_sublist isBlank (l := (cs.dropWhile isBlank).reverse)).reverse
  rw [List.reverse_reverse] at h
  exact h.trans (List.dropWhile_sublist isBlank)

theorem isBlank_of_isPlain {c : Char} (h : Url.isPlain c = true) : isBlank c = false := by
  simp only [Url.isPlain, Bool.and_eq_true, decide_eq_true_eq] at h
  simp only [isBlank, Bool.or_eq_false_iff, Bool.and_eq_false_iff, decide_eq_false_iff_not]
  omega

end Text

/-- What a URL is printed as reads as a URL that is printed the same. -/
def Url.Rereads (u : Url) : Prop := (Url.parse? u.render).map Url.render = some u.render

namespace Address

open Text

/-! ## Texts of addresses -/

/-- The texts of the addresses that are made: printed URLs, and paths without dot segments. -/
inductive Made : List Char → Prop
  | url {u : Url} : u.Read → Made u.renderChars
  | path {cs : List Char} : '#' ∉ cs → (∀ c ∈ cs.getLast?, isBlank c = false) →
      Made (removeDotSegments cs)

theorem made_normalize {cs : List Char} (h : '#' ∉ cs) : Made (normalize cs) := by
  have htrim : '#' ∉ trim cs := fun hmem => h ((trim_sublist cs).subset hmem)
  unfold normalize
  dsimp only
  split_ifs with hempty
  · exact .path List.not_mem_nil nofun
  · split
    · have hsign : '#' ∉ (String.ofList (trim cs)).toList := by rwa [String.toList_ofList]
      exact .url (.parse hsign ‹_›)
    · exact .path htrim fun c hc => getLast?_trim hc

theorem Made.number_sign {cs : List Char} (h : Made cs) : '#' ∉ cs := by
  cases h with
  | url hread =>
    intro hmem
    exact absurd (hread.printable.mem_renderChars hmem) (by decide)
  | path hsign _ =>
    intro hmem
    rcases mem_removeDotSegments hmem with heq | heq | hmem
    · exact absurd heq (by decide)
    · exact absurd heq (by decide)
    · exact hsign hmem

theorem Made.getLast? {cs : List Char} (h : Made cs) : ∀ c ∈ cs.getLast?, isBlank c = false := by
  intro c hc
  cases h with
  | url hread => exact isBlank_of_isPlain (hread.printable.getLast?_renderChars hc)
  | path _ hlast =>
    rcases getLast?_removeDotSegments hc with rfl | hc
    · decide
    · exact hlast c hc

theorem normalize_of_trim {cs : List Char} (h : trim cs = cs) :
    normalize cs = match Url.parse? (String.ofList cs) with
      | some url => url.renderChars
      | none => removeDotSegments cs := by
  rcases cs with _ | ⟨c, cs⟩
  · have hempty : Url.parse? (String.ofList []) = none := by decide +kernel
    rw [hempty]
    rfl
  · rw [normalize, h]
    cases Url.parse? (String.ofList (c :: cs)) <;>
      simp only [List.isEmpty_cons, Bool.false_eq_true, if_false]

/-- A printed URL stays as it is. -/
theorem normalize_renderChars {u : Url} (h : u.Read) (hreread : u.Rereads) :
    normalize u.renderChars = u.renderChars := by
  have htrim : trim u.renderChars = u.renderChars :=
    trim_eq_self (fun c hc => isBlank_of_isPlain (h.printable.head?_renderChars hc))
      fun c hc => isBlank_of_isPlain (h.printable.getLast?_renderChars hc)
  obtain ⟨v, hv, hrender⟩ := Option.map_eq_some_iff.1 hreread
  rw [normalize_of_trim htrim, ← Url.render, hv]
  exact String.ofList_injective hrender

/-- A text with a blank in front is not what it is normalized to. -/
theorem normalize_ne_of_isBlank {c : Char} (h : isBlank c = true) {cs : List Char}
    (hsign : '#' ∉ c :: cs) : normalize (c :: cs) ≠ c :: cs := by
  intro heq
  have htrim : '#' ∉ trim (c :: cs) := fun hmem => hsign ((trim_sublist _).subset hmem)
  rw [normalize] at heq
  split_ifs at heq
  split at heq
  · rename_i url hurl
    have hread : url.Read := .parse (by rwa [String.toList_ofList]) hurl
    have hplain := hread.printable.head?_renderChars (by rw [heq]; rfl : c ∈ _)
    rw [isBlank_of_isPlain hplain] at h
    cases h
  · -- characters between slashes are only lost, and the blank is
    have hslash : c ≠ '/' := by
      rintro rfl
      exact absurd h (by decide)
    have hle := countP_removeDotSegments_le (trim (c :: cs))
    have hlost := (trim_sublist cs).countP_le (p := (· ≠ '/'))
    rw [heq, trim_cons h, List.countP_cons_of_pos (by simpa using hslash)] at hle
    omega

/-- Two things can change the text of an address when it is normalized again. -/
theorem normalize_eq_self_iff {cs : List Char} (h : Made cs)
    (hurl : ∀ u : Url, u.Read → u.renderChars = cs → u.Rereads) :
    normalize cs = cs ↔ (∀ c ∈ cs.head?, isBlank c = false) ∧
      ∀ u, Url.parse? (String.ofList cs) = some u → u.renderChars = cs := by
  have hlast := h.getLast?
  have hsign := h.number_sign
  constructor
  · intro heq
    have hhead : ∀ c ∈ cs.head?, isBlank c = false := by
      rcases cs with _ | ⟨c, cs⟩
      · exact nofun
      · rintro _ ⟨⟩
        rw [← Bool.not_eq_true]
        exact fun hblank => normalize_ne_of_isBlank hblank hsign heq
    refine ⟨hhead, fun u hu => ?_⟩
    rw [normalize_of_trim (trim_eq_self hhead hlast), hu] at heq
    exact heq
  · rintro ⟨hhead, hprint⟩
    cases h with
    | url hread => exact normalize_renderChars hread (hurl _ hread rfl)
    | path _ _ =>
      rw [normalize_of_trim (trim_eq_self hhead hlast)]
      split
      · exact hprint _ ‹_›
      · exact removeDotSegments_idempotent _

/-! ## Documents -/

theorem splitFragment_of_not_mem {cs : List Char} (h : '#' ∉ cs) :
    splitFragment cs = (cs, none) := by
  have hdrop : cs.dropWhile (· ≠ '#') = [] :=
    List.dropWhile_eq_nil_iff.2 fun c hc => decide_eq_true fun heq => h (heq ▸ hc)
  rw [splitFragment, hdrop]

theorem not_mem_splitFragment (cs : List Char) : '#' ∉ (splitFragment cs).1 := by
  rcases hdrop : cs.dropWhile (· ≠ '#') with _ | ⟨c, rest⟩
  · have hall := List.dropWhile_eq_nil_iff.1 hdrop
    rw [splitFragment, hdrop]
    exact fun hmem => absurd rfl (of_decide_eq_true (hall _ hmem))
  · rw [splitFragment, hdrop]
    intro hmem
    exact absurd rfl (of_decide_eq_true (List.mem_takeWhile_imp (l := cs) hmem))

end Address

namespace DocumentId

open Address Text

/-- The documents that addresses and the references in documents lead to. -/
inductive Reached : DocumentId → Prop
  | parse (raw : String) : Reached (.parse raw)
  | resolve {d : DocumentId} (reference : String) : Reached d →
      Reached (d.resolve reference).document

theorem made_resolveDocument {d : DocumentId} (h : Made d.text.toList) {reference : List Char}
    (hsign : '#' ∉ reference) : Made (d.resolveDocument reference).text.toList := by
  have hnormal {cs : List Char} (hcs : '#' ∉ cs) : Made (ofChars (normalize cs)).text.toList := by
    rw [ofChars, String.toList_ofList]
    exact made_normalize hcs
  unfold resolveDocument
  dsimp only
  split
  · exact hnormal hsign
  split
  · rename_i base hbase
    split
    · rename_i url hjoin
      have hread : url.Read :=
        .join (.parse h.number_sign hbase) (by rwa [String.toList_ofList]) hjoin
      rw [ofChars, String.toList_ofList]
      exact .url hread
    · exact hnormal hsign
  · split
    · exact hnormal hsign
    · refine hnormal fun hmem => ?_
      rcases List.mem_append.1 hmem with hmem | hmem
      · exact h.number_sign (Url.directoryOf_subset _ hmem)
      · exact hsign hmem

/-- Whatever is read or resolved, the text of its document is a printed URL or a path without dot
segments. -/
theorem Reached.made {d : DocumentId} (h : d.Reached) : Made d.text.toList := by
  induction h with
  | parse raw =>
    rw [DocumentId.parse, ofChars, String.toList_ofList]
    exact made_normalize (not_mem_splitFragment raw.toList)
  | resolve reference _ ih =>
    unfold DocumentId.resolve
    dsimp only
    split_ifs
    · exact ih
    · exact made_resolveDocument ih (not_mem_splitFragment reference.toList)

/-- The address of a document is a fixed point just if its text does not start with a blank and, in
case it reads as a URL, is how that URL is printed. -/
theorem parse_text_iff {d : DocumentId} (hd : d.Reached)
    (hurl : ∀ u : Url, u.Read → u.render = d.text → u.Rereads) :
    DocumentId.parse d.text = d ↔ (∀ c ∈ d.text.toList.head?, isBlank c = false) ∧
      ∀ u, Url.parse? d.text = some u → u.render = d.text := by
  have hrender (u : Url) : u.render = d.text ↔ u.renderChars = d.text.toList := by
    rw [Url.render, ← String.toList_inj, String.toList_ofList]
  have hfixed := normalize_eq_self_iff hd.made fun u hu heq => hurl u hu ((hrender u).2 heq)
  have hparse : DocumentId.parse d.text = d ↔ normalize d.text.toList = d.text.toList := by
    rw [DocumentId.parse, splitFragment_of_not_mem hd.made.number_sign, ofChars]
    refine ⟨fun h => ?_, fun h => ?_⟩
    · simpa using congrArg (fun d => d.text.toList) h
    · rw [h, String.ofList_toList]
  rw [String.ofList_toList] at hfixed
  simp only [hparse, hfixed, hrender]

theorem parse_text_iff_common :
    let d := ((DocumentId.parse "https://example.com/schemas/person.json").resolve
      "../common/id.json#/definitions/Id").document
    d.Reached ∧ (∀ u : Url, u.Read → u.render = d.text → u.Rereads) ∧
      DocumentId.parse d.text = d := by
  intro d
  have hd : d.Reached := .resolve _ (.parse _)
  have hreread : (Url.parse? d.text).map Url.render = some d.text := by decide +kernel
  have hurl : ∀ u : Url, u.Read → u.render = d.text → u.Rereads := fun u _ hu => by
    rw [Url.Rereads, hu, hreread]
  have hhead : d.text.toList.head? = some 'h' := by decide +kernel
  refine ⟨hd, hurl, (parse_text_iff hd hurl).2 ⟨fun c hc => ?_, fun u hu => ?_⟩⟩
  · rw [hhead] at hc
    obtain rfl := Option.some.inj hc
    decide
  · rw [hu] at hreread
    exact Option.some.inj hreread

/-- A dot segment keeps the first reading from taking away the blank, or from seeing the URL. -/
theorem parse_text_not_fixed :
    DocumentId.parse (DocumentId.parse "./ a").text ≠ DocumentId.parse "./ a" ∧
    DocumentId.parse (DocumentId.parse "./http:/x").text ≠ DocumentId.parse "./http:/x" := by
  decide +kernel

end DocumentId

end JsonTypes
