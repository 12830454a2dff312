import Mathlib.Tactic.Common
import JsonTypes.Url.Parser

/-!
# Plain characters in the parts of URLs

A part of a URL is printed in visible ASCII characters without a number sign, whatever text it is
read from: percent encoding leaves no other characters, addresses have only digits and their
separators, and a domain is checked for what it may not have once its percent signs are resolved.
-/

namespace JsonTypes.Url

/-- A visible ASCII character other than the number sign. -/
def isPlain (c : Char) : Bool := 0x20 < c.toNat && c.toNat < 0x7F && c ≠ '#'

def Plain (cs : List Char) : Prop := ∀ c ∈ cs, isPlain c = true

instance (cs : List Char) : Decidable (Plain cs) :=
  decidable_of_iff (cs.all isPlain = true) List.all_eq_true

@[simp]
theorem plain_nil : Plain [] := fun _ h => absurd h List.not_mem_nil

@[simp]
theorem plain_cons {c : Char} {cs : List Char} : Plain (c :: cs) ↔ isPlain c = true ∧ Plain cs :=
  List.forall_mem_cons

@[simp]
theorem plain_append {as bs : List Char} : Plain (as ++ bs) ↔ Plain as ∧ Plain bs :=
  List.forall_mem_append

theorem Plain.subset {as bs : List Char} (h : Plain bs) (hsub : as ⊆ bs) : Plain as :=
  fun c hc => h c (hsub hc)

theorem plain_intercalate {sep : List Char} {parts : List (List Char)} (hsep : Plain sep)
    (h : ∀ part ∈ parts, Plain part) : Plain (sep.intercalate parts) := by
  induction parts with
  | nil => exact plain_nil
  | cons part parts ih =>
    rcases parts with _ | ⟨next, parts⟩
    · simpa using h part List.mem_cons_self
    · rw [List.intercalate_cons_cons, plain_append, plain_append]
      exact ⟨⟨h part List.mem_cons_self, hsep⟩, ih fun p hp => h p (List.mem_cons_of_mem _ hp)⟩

/-! ## Percent encoding -/

theorem isPlain_upperHexDigit : ∀ n < 16, isPlain (upperHexDigit n) = true := by
  decide

theorem plain_encodeByte (b : UInt8) : Plain (encodeByte b) := by
  have hbyte : b.toNat < 256 := b.toNat_lt
  have hhigh := isPlain_upperHexDigit (b.toNat / 16) (by omega)
  have hlow := isPlain_upperHexDigit (b.toNat % 16) (by omega)
  exact plain_cons.2 ⟨by decide, plain_cons.2 ⟨hhigh, plain_cons.2 ⟨hlow, plain_nil⟩⟩⟩

/-- What is encoded is plain, and the rest is what it was. -/
theorem mem_percentEncode {set : Char → Bool} {cs : List Char} {c : Char}
    (h : c ∈ percentEncode set cs) : isPlain c = true ∨ c ∈ cs ∧ set c = false := by
  induction cs with
  | nil => exact absurd h List.not_mem_nil
  | cons d cs ih =>
    rw [percentEncode] at h
    rcases List.mem_append.1 h with h | h
    · split_ifs at h with hset
      · obtain ⟨b, -, hb⟩ := List.mem_flatMap.1 h
        exact .inl (plain_encodeByte b c hb)
      · obtain rfl := List.mem_singleton.1 h
        exact .inr ⟨List.mem_cons_self, by simpa using hset⟩
    · exact (ih h).imp_right fun h => ⟨List.mem_cons_of_mem _ h.1, h.2⟩

theorem eq_space_of_toNat {c : Char} (h : c.toNat = 0x20) : c = ' ' := by
  rw [← Char.ofNat_toNat c, h]

/-- Only spaces and number signs are left as they are without being plain. -/
theorem isPlain_of_controlSet {c : Char} (hset : controlSet c = false) (hspace : c ≠ ' ')
    (hsign : c ≠ '#') : isPlain c = true := by
  have hne : c.toNat ≠ 0x20 := fun h => hspace (eq_space_of_toNat h)
  simp only [controlSet, Bool.or_eq_false_iff, decide_eq_false_iff_not] at hset
  simp only [isPlain, Bool.and_eq_true, decide_eq_true_eq]
  exact ⟨⟨by omega, by omega⟩, hsign⟩

theorem isPlain_of_querySet {c : Char} (h : querySet c = false) : isPlain c = true := by
  simp only [querySet, Bool.or_eq_false_iff, decide_eq_false_iff_not] at h
  exact isPlain_of_controlSet h.1.1.1.1.1 h.1.1.1.1.2 h.1.1.2

theorem plain_percentEncode {set : Char → Bool} (h : ∀ c, set c = false → querySet c = false)
    (cs : List Char) : Plain (percentEncode set cs) := fun c hc =>
  (mem_percentEncode hc).elim id fun hkept => isPlain_of_querySet (h c hkept.2)

theorem querySet_of_pathSet {c : Char} (h : pathSet c = false) : querySet c = false := by
  simp only [pathSet, Bool.or_eq_false_iff] at h
  exact h.1.1.1.1

theorem querySet_of_userinfoSet {c : Char} (h : userinfoSet c = false) : querySet c = false := by
  simp only [userinfoSet, Bool.or_eq_false_iff] at h
  exact querySet_of_pathSet (by simp [h])

theorem plain_readQuery {kind : SchemeKind} {cs query : List Char}
    (h : readQuery kind cs = some query) : Plain query := by
  unfold readQuery at h
  split at h
  · obtain rfl := Option.some.inj h
    refine plain_percentEncode (fun c hc => ?_) _
    cases kind <;> simp_all [querySetOf, specialQuerySet]
  · cases h

theorem plain_renderUserinfo (cs : List Char) : Plain (renderUserinfo cs) := by
  have hencode := plain_percentEncode fun c => querySet_of_userinfoSet (c := c)
  have hcolon : isPlain ':' = true := by decide
  have hat : isPlain '@' = true := by decide
  unfold renderUserinfo
  dsimp only
  split_ifs <;> simp [hencode, hcolon, hat]

/-! ## Addresses -/

theorem isPlain_digitChar : ∀ n < 16, isPlain (Nat.digitChar n) = true := by
  decide

theorem plain_toDigits {base : Nat} (hone : 1 < base) (hbase : base ≤ 16) (n : Nat) :
    Plain (Nat.toDigits base n) := by
  induction n using Nat.strongRecOn with
  | ind n ih =>
    rw [Nat.toDigits_eq_if hone]
    split_ifs with hlt
    · simpa using isPlain_digitChar n (by omega)
    · have hlast : n % base < base := Nat.mod_lt n (by omega)
      rw [plain_append]
      exact ⟨ih (n / base) (Nat.div_lt_self (by omega) hone),
        by simpa using isPlain_digitChar (n % base) (by omega)⟩

theorem plain_renderIpv4 (n : Nat) : Plain (renderIpv4 n) := by
  rw [renderIpv4, String.toList_intercalate]
  refine plain_intercalate (by decide) fun part hpart => ?_
  simp only [List.map_map, List.mem_map, Function.comp_apply] at hpart
  obtain ⟨k, -, rfl⟩ := hpart
  rw [Nat.toString_eq_repr, Nat.toList_repr]
  exact plain_toDigits (by decide) (by decide) k

theorem plain_renderPieces (pieces : List Nat) : Plain (renderPieces pieces).toList := by
  rw [renderPieces, String.toList_intercalate]
  refine plain_intercalate (by decide) fun part hpart => ?_
  simp only [List.map_map, List.mem_map, Function.comp_apply, String.toList_ofList] at hpart
  obtain ⟨k, -, rfl⟩ := hpart
  exact plain_toDigits (by decide) (by decide) k

theorem plain_renderIpv6 (pieces : List Nat) : Plain (renderIpv6 pieces) := by
  have hopen : Plain "[".toList := by decide
  have hclose : Plain "]".toList := by decide
  have hgap : Plain "::".toList := by decide
  unfold renderIpv6
  split <;> simp only [String.toList_append, plain_append, plain_renderPieces, hopen, hclose, hgap,
    and_self]

theorem plain_bracketed {cs host : List Char} (h : bracketed? cs = some host) : Plain host := by
  unfold bracketed? at h
  split_ifs at h
  obtain ⟨pieces, -, rfl⟩ := Option.map_eq_some_iff.1 h
  exact plain_renderIpv6 pieces

/-! ## Domains -/

theorem isPlain_of_basic {c : Char} (hbasic : Punycode.isBasic c = true)
    (hallowed : isForbiddenInDomain c = false) : isPlain c = true := by
  simp only [isForbiddenInDomain, Bool.or_eq_false_iff, decide_eq_false_iff_not] at hallowed
  have hsign : c ≠ '#' := fun h => absurd hallowed.2 (by simp [h])
  simp only [Punycode.isBasic, decide_eq_true_eq] at hbasic
  simp only [isPlain, Bool.and_eq_true, decide_eq_true_eq]
  exact ⟨⟨by omega, by omega⟩, hsign⟩

section Punycode

open Punycode

theorem isPlain_punycodeDigit : ∀ d < 36, isPlain (digitChar d) = true := by
  decide

theorem threshold_le (bias k : Nat) : threshold k bias ≤ 26 := by
  unfold threshold
  split_ifs <;> omega

theorem plain_digits (bias k q : Nat) : Plain (digits bias k q) := by
  fun_induction digits bias k q with
  | case1 k q t hlt =>
    have hbound : t ≤ 26 := threshold_le bias k
    simpa using isPlain_punycodeDigit q (by omega)
  | case2 k q t hle ih =>
    have hbound : t ≤ 26 := threshold_le bias k
    have hdigit : (q - t) % (36 - t) < 36 - t := Nat.mod_lt _ (by omega)
    exact plain_cons.2 ⟨isPlain_punycodeDigit _ (by omega), ih⟩

theorem plain_pass {basic n : Nat} {w : Writer} {c : Char} (h : Plain w.out) :
    Plain (w.pass basic n c).out := by
  unfold Writer.pass
  split_ifs
  · exact h
  · exact plain_append.2 ⟨h, plain_digits _ _ _⟩
  · exact h

theorem plain_writeAll {input : List Char} {basic : Nat} (others : List Nat) {n : Nat} {w : Writer}
    (h : Plain w.out) : Plain (writeAll input basic others n w).out := by
  induction others generalizing n w with
  | nil => exact h
  | cons m others ih =>
    rw [writeAll]
    refine ih ?_
    exact List.foldlRecOn (motive := fun w : Writer => Plain w.out) input _ h
      fun _ hw _ _ => plain_pass hw

theorem plain_encode {label : List Char} (h : ∀ c ∈ label, isForbiddenInDomain c = false) :
    Plain (encode label) := by
  have hbasic : Plain (label.filter isBasic) := fun c hc =>
    isPlain_of_basic (List.mem_filter.1 hc).2 (h c (List.mem_filter.1 hc).1)
  have hhyphen : isPlain '-' = true := by decide
  unfold encode
  refine plain_writeAll _ ?_
  dsimp only
  split_ifs
  · exact plain_nil
  · simp [hbasic, hhyphen]

end Punycode

theorem plain_asciiLabel {label : List Char}
    (hallowed : ∀ c ∈ label, isForbiddenInDomain c = false) : Plain (asciiLabel label) := by
  unfold asciiLabel
  split_ifs with hbasic
  · exact fun c hc => isPlain_of_basic (List.all_eq_true.1 hbasic c hc) (hallowed c hc)
  · exact plain_append.2 ⟨by decide, plain_encode hallowed⟩

/-- The labels are checked before they are written, also those that are in Punycode already. -/
theorem plain_domain {cs text : List Char} (h : domain? cs = some text) : Plain text := by
  simp only [domain?, Option.bind_eq_bind, Option.bind_eq_some_iff] at h
  obtain ⟨decoded, -, folded, -, h⟩ := h
  split_ifs at h with hforbidden
  obtain ⟨shown, -, h⟩ := Option.bind_eq_some_iff.1 h
  split_ifs at h
  obtain rfl := Option.some.inj h
  refine plain_intercalate (by decide) fun text htext => ?_
  obtain ⟨label, hlabel, rfl⟩ := List.mem_map.1 htext
  refine plain_asciiLabel fun c hc => ?_
  rw [Bool.eq_false_iff]
  exact fun hbad => hforbidden (List.any_eq_true.2 ⟨c, Text.mem_of_mem_splitOn hlabel hc, hbad⟩)

example : domain? "e\u0301.\uFB00\u2460".toList = some "xn--9ca.ff1".toList := by decide +kernel

theorem plain_specialHost {cs host : List Char} (h : specialHost? cs = some host) :
    Plain host := by
  unfold specialHost? at h
  split at h
  · exact plain_bracketed h
  · obtain ⟨domain, hdomain, h⟩ := Option.bind_eq_some_iff.1 h
    split_ifs at h
    · obtain ⟨n, -, rfl⟩ := Option.map_eq_some_iff.1 h
      exact plain_renderIpv4 n
    · exact Option.some.inj h ▸ plain_domain hdomain

theorem plain_opaqueHost {cs host : List Char} (h : opaqueHost? cs = some host) : Plain host := by
  unfold opaqueHost? at h
  split at h
  · exact plain_bracketed h
  · rename_i cs _
    split_ifs at h with hforbidden
    obtain rfl := Option.some.inj h
    intro c hc
    rcases mem_percentEncode hc with hplain | ⟨hmem, hset⟩
    · exact hplain
    · have hallowed : isForbiddenInHost c = false := by
        rw [Bool.eq_false_iff]
        exact fun hbad => hforbidden (List.any_eq_true.2 ⟨c, hmem, hbad⟩)
      refine isPlain_of_controlSet hset ?_ ?_ <;> rintro rfl <;> exact absurd hallowed (by decide)

end JsonTypes.Url
