import Mathlib.Data.List.TakeWhile
import JsonTypes.Json.Parser
import JsonTypes.Text.Blank

/-!
# Text around a JSON value

A value is read from the front of a text, so blanks behind the text change nothing: they end a
number as the end of the text does, and where something was still to come both texts break off.
`Alike` compares a scan of a text with the scan of the text with more behind it. Reading loops with
fuel for the text they are given, so the two scans may differ in their fuel.

What is trimmed from a text that is JSON is white space to JSON as well.
-/

namespace JsonTypes.Json

open Text (Symbol)

def symbols (cs : List Char) : List Symbol := cs.map .ofChar

/-- Both scans stop, or both take the same and leave at most so many characters. -/
inductive EndsAlike {α : Type} (w : List Char) (n : Nat) :
    Except Stop (α × List Symbol) → Except Stop (α × List Symbol) → Prop
  | ok (a : α) {r : List Char} : r.length ≤ n →
      EndsAlike w n (.ok (a, symbols (r ++ w))) (.ok (a, symbols r))
  | stop (s s' : Stop) : EndsAlike w n (.error s) (.error s')

/-- A scan of a text with more behind it, and a scan of the text alone, end alike. -/
def Alike {α : Type} (w : List Char) (n : Nat) (f g : Scan α) (r : List Char) : Prop :=
  EndsAlike w n (f (symbols (r ++ w))) (g (symbols r))

/-- A scan stops on a text. -/
def Stops {α : Type} (f : Scan α) (cs : List Char) : Prop := ∃ stop, f (symbols cs) = .error stop

section Rules

variable {α β : Type} {w : List Char} {m n : Nat} {r : List Char}

theorem Alike.of_stops {f g : Scan α} (hf : Stops f (r ++ w)) (hg : Stops g r) :
    Alike w n f g r := by
  obtain ⟨stop, hf⟩ := hf
  obtain ⟨stop', hg⟩ := hg
  unfold Alike
  rw [hf, hg]
  exact .stop stop stop'

theorem EndsAlike.mono {x y : Except Stop (α × List Symbol)} (h : EndsAlike w m x y) (hmn : m ≤ n) :
    EndsAlike w n x y := by
  cases h with
  | ok a hr => exact .ok a (Nat.le_trans hr hmn)
  | stop s s' => exact .stop s s'

theorem Alike.mono {f g : Scan α} (h : Alike w m f g r) (hmn : m ≤ n) : Alike w n f g r :=
  EndsAlike.mono h hmn

theorem Alike.pure (a : α) (hr : r.length ≤ n) : Alike w n (pure a) (pure a) r := .ok a hr

theorem Alike.bind {f g : Scan α} {F G : α → Scan β} (h : Alike w m f g r)
    (hnext : ∀ a r', r'.length ≤ m → Alike w n (F a) (G a) r') :
    Alike w n (f >>= F) (g >>= G) r := by
  change EndsAlike w n ((f (symbols (r ++ w))).bind fun p => F p.1 p.2)
    ((g (symbols r)).bind fun p => G p.1 p.2)
  unfold Alike at h
  generalize f (symbols (r ++ w)) = x at h
  generalize g (symbols r) = y at h
  cases h with
  | ok a hr => exact hnext a _ hr
  | stop s s' => exact .stop s s'

theorem Alike.ite {p : Prop} [Decidable p] {f f' g g' : Scan α} (hpos : p → Alike w n f g r)
    (hneg : ¬ p → Alike w n f' g' r) :
    Alike w n (if p then f else f') (if p then g else g') r := by
  split
  · exact hpos ‹p›
  · exact hneg ‹¬ p›

/-- A look at the next character, which may be a blank behind the end of the text. -/
theorem Alike.peek {F G : Option Char → Scan α} (hw : ∀ c ∈ w, Text.isBlank c = true)
    (hmore : ∀ c r', r'.length < r.length → Alike w n (F (some c)) (G (some c)) (c :: r'))
    (hend : r = [] → ∀ o : Option Char, (∀ b, o = some b → Text.isBlank b = true) →
      Alike w n (F o) (G none) []) :
    Alike w n (Json.peek >>= F) (Json.peek >>= G) r := by
  rcases r with _ | ⟨c, r'⟩
  · refine hend rfl ((symbols w).head?.map (·.char)) fun b hb => ?_
    rcases w with _ | ⟨x, w'⟩
    · cases hb
    · cases hb
      exact hw x List.mem_cons_self
  · exact hmore c r' r'.length.lt_succ_self

theorem Alike.drop {F G : Unit → Scan α} {c : Char} (h : Alike w n (F ()) (G ()) r) :
    Alike w n (Json.drop >>= F) (Json.drop >>= G) (c :: r) := h

theorem symbols_dropWhile (r : List Char) :
    (symbols r).dropWhile (isBlank ·.char) = symbols (r.dropWhile isBlank) := by
  rw [symbols, symbols, List.dropWhile_map]
  rfl

theorem Stops.peekPastBlanks {F : Option Char → Scan α} {cs : List Char}
    (hcs : ∀ c ∈ cs, Text.isBlank c = true)
    (h : ∀ o : Option Char, (∀ b, o = some b → Text.isBlank b = true) →
      ∀ cs, (∀ c ∈ cs, Text.isBlank c = true) → Stops (F o) cs) :
    Stops (Json.peekPastBlanks >>= F) cs := by
  change ∃ stop, F (((symbols cs).dropWhile (isBlank ·.char)).head?.map (·.char))
    ((symbols cs).dropWhile (isBlank ·.char)) = .error stop
  rw [symbols_dropWhile]
  have hleft : ∀ c ∈ cs.dropWhile isBlank, Text.isBlank c = true := fun c hc =>
    hcs c ((List.dropWhile_suffix isBlank).subset hc)
  refine h _ (fun b hb => hleft b (List.mem_of_head? ?_)) _ hleft
  simpa [symbols, Symbol.ofChar] using hb

/-- A look past blanks, which must find something before the end of the text. -/
theorem Alike.peekPastBlanks {F G : Option Char → Scan α}
    (hmore : ∀ c r', r'.length < r.length → Alike w n (F (some c)) (G (some c)) (c :: r'))
    (hend : Stops (Json.peekPastBlanks >>= F) w) (hnone : Stops (G none) []) :
    Alike w n (Json.peekPastBlanks >>= F) (Json.peekPastBlanks >>= G) r := by
  change EndsAlike w n
    (F (((symbols (r ++ w)).dropWhile (isBlank ·.char)).head?.map (·.char))
      ((symbols (r ++ w)).dropWhile (isBlank ·.char)))
    (G (((symbols r).dropWhile (isBlank ·.char)).head?.map (·.char))
      ((symbols r).dropWhile (isBlank ·.char)))
  rw [symbols_dropWhile, symbols_dropWhile, List.dropWhile_append]
  have hlength := (List.dropWhile_suffix isBlank (l := r)).length_le
  rcases hr : r.dropWhile isBlank with _ | ⟨c, r'⟩
  · rw [List.isEmpty_nil, if_pos rfl, ← symbols_dropWhile w]
    obtain ⟨stop, hstop⟩ := hend
    obtain ⟨stop', hstop'⟩ := hnone
    have hlong : F (((symbols w).dropWhile (isBlank ·.char)).head?.map (·.char))
      ((symbols w).dropWhile (isBlank ·.char)) = .error stop := hstop
    rw [hlong]
    exact hstop' ▸ .stop stop stop'
  · rw [hr] at hlength
    exact hmore c r' hlength

end Rules

theorem ne_of_isBlank {b c : Char} (hb : Text.isBlank b = true) (hc : Text.isBlank c = false) :
    b ≠ c := by
  rintro rfl
  exact Bool.false_ne_true (hc.symm.trans hb)

theorem isDigit_of_isBlank {b : Char} (hb : Text.isBlank b = true) : isDigit b = false := by
  simp only [Text.isBlank, isDigit, Bool.or_eq_true, Bool.and_eq_true, decide_eq_true_eq,
    Bool.and_eq_false_iff, decide_eq_false_iff_not, Char.le_def, UInt32.le_iff_toNat_le] at hb ⊢
  have hb : b.val.toNat = b.toNat := rfl
  have h0 : '0'.val.toNat = 48 := rfl
  have h9 : '9'.val.toNat = 57 := rfl
  omega

theorem byteCount_symbols_cons (c : Char) (r : List Char) :
    byteCount (symbols (c :: r)) = c.utf8Size + byteCount (symbols r) := by
  have hshift (n : Nat) (cs : List Symbol) :
      cs.foldl (fun n c => n + c.size) n = n + cs.foldl (fun n c => n + c.size) 0 := by
    induction cs generalizing n with
    | nil => rfl
    | cons x cs ih =>
      rw [List.foldl_cons, List.foldl_cons, ih, ih (0 + x.size)]
      omega
  rw [byteCount, symbols, List.map_cons, List.foldl_cons, hshift, Nat.zero_add]
  rfl

section Scans

variable {w : List Char} (hw : ∀ c ∈ w, Text.isBlank c = true)
include hw

/-! ## Strings -/

theorem alike_word : ∀ {ws : List Char}, (∀ c ∈ ws, Text.isBlank c = false) →
    ∀ r, Alike w r.length (word ws) (word ws) r
  | [], _, r => .pure () r.length.le_refl
  | x :: ws, hws, r => by
    obtain ⟨hx, hws⟩ := List.forall_mem_cons.1 hws
    refine .peek hw (fun c r' hlt => ?_) fun _ o ho => ?_
    · refine .ite (fun _ => ?_) fun _ => .stop _ _
      exact (alike_word hws r').mono (Nat.le_of_lt hlt)
    · rcases o with _ | b
      · exact .stop _ _
      · dsimp only
        rw [if_neg (ne_of_isBlank (ho b rfl) hx)]
        exact .stop _ _

omit hw in
theorem hexDigit?_of_isBlank {b : Char} (hb : Text.isBlank b = true) : Text.hexDigit? b = none := by
  simp only [Text.isBlank, Bool.or_eq_true, Bool.and_eq_true, decide_eq_true_eq] at hb
  have hn {x : Char} : x ≤ b ↔ x.toNat ≤ b.toNat := Iff.rfl
  have hn' {x : Char} : b ≤ x ↔ b.toNat ≤ x.toNat := Iff.rfl
  have hletters : 'a'.toNat = 97 ∧ 'f'.toNat = 102 ∧ 'A'.toNat = 65 ∧ 'F'.toNat = 70 ∧
      '0'.toNat = 48 ∧ '9'.toNat = 57 := by decide
  rw [Text.hexDigit?, Text.asciiDigit?, if_neg, if_neg, if_neg] <;> simp only [hn, hn'] <;> omega

omit hw in
theorem hexFour_eq_ok {cs rest : List Symbol} {n : Nat} (h : hexFour cs = .ok (n, rest)) :
    ∃ a b c d, cs = a :: b :: c :: d :: rest ∧ Text.hexDigit? d.char ≠ none := by
  unfold hexFour at h
  dsimp only at h
  split at h
  · cases h
  · split at h
    next a b c d rest' _ =>
      split at h
      next ha hb hc hd =>
        cases h
        exact ⟨a, b, c, d, rfl, by simp [hd]⟩
      · cases h
    · cases h

/-- The number that four characters are the digits of. -/
def hexNumber? (a b c d : Symbol) : Option Nat := do
  return (((← Text.hexDigit? a.char) * 16 + (← Text.hexDigit? b.char)) * 16 +
    (← Text.hexDigit? c.char)) * 16 + (← Text.hexDigit? d.char)

omit hw in
theorem hexFour_cons {a b c d : Symbol} {cs : List Symbol}
    (hbytes : ¬byteCount (a :: b :: c :: d :: cs) < 4) : ∃ s, hexFour (a :: b :: c :: d :: cs) =
      (hexNumber? a b c d).elim (.error s) fun n => .ok (n, cs) := by
  refine ⟨⟨.invalidEscape, a :: b :: c :: d :: cs,
    some (byteCount (a :: b :: c :: d :: cs) - 4)⟩, (if_neg hbytes).trans ?_⟩
  unfold hexNumber?
  cases Text.hexDigit? a.char <;> cases Text.hexDigit? b.char <;> cases Text.hexDigit? c.char <;>
    cases Text.hexDigit? d.char <;> rfl

theorem stops_hexFour {r : List Char} (hr : r.length < 4) : Stops hexFour (r ++ w) := by
  rcases hfour : hexFour (symbols (r ++ w)) with stop | ⟨n, rest⟩
  · exact ⟨stop, hfour⟩
  · obtain ⟨a, b, c, d, hsymbols, hd⟩ := hexFour_eq_ok hfour
    have hfourth : (symbols (r ++ w))[3]? = some d := by rw [hsymbols]; rfl
    rw [symbols, List.getElem?_map, List.getElem?_append_right (by omega),
      Option.map_eq_some_iff] at hfourth
    obtain ⟨x, hx, rfl⟩ := hfourth
    exact absurd (hexDigit?_of_isBlank (hw x (List.mem_of_getElem? hx))) hd

theorem alike_hexFour (r : List Char) : Alike w r.length hexFour hexFour r := by
  by_cases hlength : r.length < 4
  · have hshort := stops_hexFour (List.forall_mem_nil _) hlength
    rw [List.append_nil] at hshort
    exact .of_stops (stops_hexFour hw hlength) hshort
  · obtain ⟨a, b, c, d, r', rfl⟩ : ∃ a b c d r', r = a :: b :: c :: d :: r' := by
      match r, hlength with
      | a :: b :: c :: d :: r', _ => exact ⟨a, b, c, d, r', rfl⟩
      | [], h | [_], h | [_, _], h | [_, _, _], h => exact absurd (by simp) h
    have hbytes (cs : List Char) : ¬byteCount (symbols (a :: b :: c :: d :: cs)) < 4 := by
      have ha := a.utf8Size_pos
      have hb := b.utf8Size_pos
      have hc := c.utf8Size_pos
      have hd := d.utf8Size_pos
      simp only [byteCount_symbols_cons]
      omega
    obtain ⟨stop, hlong⟩ := hexFour_cons (hbytes (r' ++ w))
    obtain ⟨stop', hshort⟩ := hexFour_cons (hbytes r')
    simp only [Alike, symbols, List.cons_append, List.map_cons]
    rw [hlong, hshort]
    rcases hexNumber? (.ofChar a) (.ofChar b) (.ofChar c) (.ofChar d) with _ | n
    · exact .stop _ _
    · exact .ok _ (by simp only [List.length_cons]; omega)

theorem alike_expectSecondHalf {x : Char} (hx : Text.isBlank x = false) (r : List Char) :
    Alike w r.length (expectSecondHalf x) (expectSecondHalf x) r := by
  refine .peek hw (fun c r' hlt => ?_) fun _ o ho => ?_
  · exact .ite (fun _ => .ok () (Nat.le_of_lt hlt)) fun _ => .stop _ _
  · rcases o with _ | b
    · exact .stop _ _
    · dsimp only
      rw [if_neg (ne_of_isBlank (ho b rfl) hx)]
      exact .stop _ _

theorem alike_unicodeEscape (r : List Char) : Alike w r.length unicodeEscape unicodeEscape r := by
  refine (alike_hexFour hw r).bind fun high r₁ h₁ => ?_
  refine .ite (fun _ => .stop _ _) fun _ => .ite (fun _ => .pure _ h₁) fun _ => ?_
  refine (alike_expectSecondHalf hw (by decide) r₁).bind fun _ r₂ h₂ => ?_
  refine (alike_expectSecondHalf hw (by decide) r₂).bind fun _ r₃ h₃ => ?_
  refine (alike_hexFour hw r₃).bind fun low r₄ h₄ => ?_
  exact .ite (fun _ => .stop _ _) fun _ => .pure _ (by omega)

theorem alike_escapeBody (r : List Char) : Alike w r.length escapeBody escapeBody r := by
  refine .peek hw (fun c r' hlt => ?_) fun _ o ho => ?_
  · split
    · exact .stop _ _
    · exact (alike_unicodeEscape hw r').mono (Nat.le_of_lt hlt)
    · split
      · exact .ok _ (Nat.le_of_lt hlt)
      · exact .stop _ _
  · rcases o with _ | b
    · exact .stop _ _
    · have hb := ho b rfl
      have hnone : shortEscape? b = none := by
        rw [shortEscape?, if_neg, if_neg, if_neg, if_neg, if_neg, if_neg, if_neg, if_neg] <;>
          exact ne_of_isBlank hb (by decide)
      split
      · exact .stop _ _
      · cases ne_of_isBlank hb (by decide : Text.isBlank 'u' = false) (Option.some.inj ‹_›)
      · cases Option.some.inj ‹_›
        rw [hnone]
        exact .stop _ _

omit hw in
theorem peek_bind {α : Type} (F : Option Char → Scan α) (c : Char) (cs : List Char) :
    (peek >>= F) (symbols (c :: cs)) = F (some c) (symbols (c :: cs)) := rfl

omit hw in
/-- A text without stray bytes has no place of one. -/
theorem strayPlace?_bind {α : Type} (F : Option Nat → Scan α) (cs : List Char) :
    (strayPlace? >>= F) (symbols cs) = F none (symbols cs) := by
  have hstray : strayPlace? (symbols cs) = .ok (none, symbols cs) := by
    rcases cs with _ | ⟨c, cs⟩
    · rfl
    · change Except.ok (if (Symbol.ofChar c).isStray then _ else _, _) = _
      rw [Symbol.isStray_ofChar]
      rfl
  change (strayPlace? (symbols cs)).bind (fun p => F p.1 p.2) = _
  rw [hstray]
  rfl

omit hw in
/-- Blanks close no string. -/
theorem stringLoop_blanks : ∀ (n : Nat) (taken : List Char) (stray : Option Nat) {cs : List Char},
    (∀ c ∈ cs, Text.isBlank c = true) → Stops (stringLoop n taken stray) cs
  | 0, _, _, _, _ => ⟨_, rfl⟩
  | n + 1, taken, stray, [], _ => ⟨_, rfl⟩
  | n + 1, taken, stray, c :: cs, hcs => by
    obtain ⟨hc, hcs⟩ := List.forall_mem_cons.1 hcs
    unfold Stops stringLoop
    rw [peek_bind]
    refine (?_ : Stops _ (c :: cs))
    split
    · exact ⟨_, rfl⟩
    · cases ne_of_isBlank hc (by decide : Text.isBlank '"' = false) (Option.some.inj ‹_›)
    · cases ne_of_isBlank hc (by decide : Text.isBlank '\\' = false) (Option.some.inj ‹_›)
    · split
      · exact ⟨_, rfl⟩
      · unfold Stops
        rw [strayPlace?_bind]
        exact stringLoop_blanks n _ _ hcs

theorem alike_stringLoop : ∀ {n m : Nat} {taken : List Char} {stray stray' : Option Nat}
    {r : List Char}, r.length + w.length < n → r.length < m → stray.isSome = stray'.isSome →
      Alike w r.length (stringLoop n taken stray) (stringLoop m taken stray') r
  -- Where the text ends neither string is closed.
  | n + 1, m + 1, taken, stray, stray', [], _, _, _ =>
    .of_stops (stringLoop_blanks (n + 1) taken stray hw) ⟨_, rfl⟩
  | n + 1, m + 1, taken, stray, stray', c :: r, hn, hm, hstray => by
    rw [List.length_cons] at hn hm
    refine .peek hw (fun c r' hlt => ?_) nofun
    rw [List.length_cons] at hlt ⊢
    split
    · exact .stop _ _
    · refine .drop ?_
      rcases stray with _ | p <;> rcases stray' with _ | p' <;> cases hstray
      · exact .pure _ (Nat.le_of_lt hlt)
      · exact .stop _ _
    · refine .drop ((alike_escapeBody hw r').bind fun x r₁ h₁ => ?_)
      exact (alike_stringLoop (by omega) (by omega) hstray).mono (by omega)
    · refine .ite (fun _ => .stop _ _) fun _ => ?_
      unfold Alike
      rw [List.cons_append, strayPlace?_bind, strayPlace?_bind, Option.or_none, Option.or_none]
      exact (alike_stringLoop (by omega) (by omega) hstray).mono (Nat.le_of_lt hlt)

theorem alike_stringBody (r : List Char) : Alike w r.length stringBody stringBody r := by
  refine alike_stringLoop hw ?_ ?_ rfl <;> simp [symbols]

/-! ## Numbers -/

theorem alike_nextIsDigit (r : List Char) : Alike w r.length nextIsDigit nextIsDigit r := by
  refine .peek hw (fun c r' hlt => .ok _ hlt) fun hr o ho => ?_
  subst hr
  rcases o with _ | b
  · exact .pure _ (Nat.le_refl _)
  · dsimp only
    rw [isDigit_of_isBlank (ho b rfl)]
    exact .pure _ (Nat.le_refl _)

omit hw in
theorem gatherDigits_cons (value : Nat) (c : Char) (cs : List Char) :
    gatherDigits value (symbols (c :: cs)) =
      if isDigit c && value * 10 + digitValue c < UInt64.size then
        (gatherDigits (value * 10 + digitValue c) (symbols cs)).map id (Prod.map (· + 1) id)
      else (value, 0, symbols (c :: cs)) := rfl

theorem gatherDigits_append : ∀ (value : Nat) (r : List Char), ∃ v n r', r'.length ≤ r.length ∧
    gatherDigits value (symbols r) = (v, n, symbols r') ∧
      gatherDigits value (symbols (r ++ w)) = (v, n, symbols (r' ++ w))
  | value, [] => by
    refine ⟨value, 0, [], (Nat.le_refl _), rfl, ?_⟩
    rw [List.nil_append]
    rcases w with _ | ⟨c, cs⟩
    · rfl
    · change (if isDigit c && _ then _ else _) = _
      rw [isDigit_of_isBlank (hw c List.mem_cons_self), Bool.false_and, if_neg (by decide)]
      rfl
  | value, c :: r => by
    rw [List.cons_append, gatherDigits_cons, gatherDigits_cons]
    split
    · obtain ⟨v, n, r', hlength, hshort, hlong⟩ :=
        gatherDigits_append (value * 10 + digitValue c) r
      exact ⟨v, n + 1, r', Nat.le_succ_of_le hlength, by rw [hshort]; rfl, by rw [hlong]; rfl⟩
    · exact ⟨value, 0, c :: r, (Nat.le_refl _), rfl, rfl⟩

theorem alike_gather (value : Nat) (r : List Char) :
    Alike w r.length (gather value) (gather value) r := by
  obtain ⟨v, n, r', hlength, hshort, hlong⟩ := gatherDigits_append hw value r
  unfold Alike gather
  rw [hshort, hlong]
  exact .ok (v, n) hlength

theorem alike_gather_digit {c : Char} (hc : isDigit c = true) (r : List Char) :
    Alike w r.length (gather 0) (gather 0) (c :: r) := by
  have hsmall : (isDigit c && 0 * 10 + digitValue c < UInt64.size) = true := by
    have hdigit := hc
    simp only [isDigit, Bool.and_eq_true, decide_eq_true_eq] at hdigit
    have hle : c.toNat ≤ 57 := hdigit.2
    have hvalue : digitValue c ≤ c.toNat := Nat.sub_le _ _
    have hsize : 57 < UInt64.size := by decide
    rw [hc, Bool.true_and, decide_eq_true_eq]
    omega
  obtain ⟨v, n, r', hlength, hshort, hlong⟩ := gatherDigits_append hw (0 * 10 + digitValue c) r
  unfold Alike gather
  rw [List.cons_append, gatherDigits_cons, gatherDigits_cons, if_pos hsmall, if_pos hsmall, hshort,
    hlong]
  exact .ok (v, n + 1) hlength

theorem alike_skipDigits (r : List Char) : Alike w r.length skipDigits skipDigits r := by
  have hmap (cs : List Char) : skipDigits (symbols cs) =
      .ok ((cs.takeWhile isDigit).length, symbols (cs.dropWhile isDigit)) := by
    unfold skipDigits symbols
    rw [List.takeWhile_map, List.dropWhile_map, List.length_map]
    rfl
  have hstop : w.takeWhile isDigit = [] ∧ w.dropWhile isDigit = w := by
    rcases w with _ | ⟨c, cs⟩
    · exact ⟨rfl, rfl⟩
    · simp [isDigit_of_isBlank (hw c List.mem_cons_self)]
  have htake : (r ++ w).takeWhile isDigit = r.takeWhile isDigit := by
    rw [List.takeWhile_append, hstop.1]
    split
    · rw [List.append_nil]
      exact (List.takeWhile_prefix isDigit).eq_of_length ‹_› |>.symm
    · rfl
  have hdrop : (r ++ w).dropWhile isDigit = r.dropWhile isDigit ++ w := by
    rw [List.dropWhile_append, hstop.2]
    split
    next h => rw [List.isEmpty_iff.1 h, List.nil_append]
    · rfl
  unfold Alike
  rw [hmap, hmap, htake, hdrop]
  exact .ok _ (List.dropWhile_suffix isDigit).length_le

omit hw in
theorem alike_double (negative : Bool) (significand : Nat) (exponent : Int) (r : List Char) :
    Alike w r.length (double negative significand exponent) (double negative significand exponent)
      r := by
  unfold double
  split
  · exact .pure _ (Nat.le_refl _)
  · exact .stop _ _

theorem alike_exponentDigits (negative : Bool) (significand : Nat) (start : Int) (positive : Bool) :
    ∀ {n m : Nat} (e : Nat) {r : List Char}, r.length + w.length < n → r.length < m →
      Alike w r.length (exponentDigits negative significand start positive n e)
        (exponentDigits negative significand start positive m e) r
  | n + 1, m + 1, e, r, hn, hm => by
    refine .peek hw (fun c r' hlt => ?_) fun hr o ho => ?_
    · refine .ite (fun _ => .drop ?_) fun _ => ?_
      · refine .ite (fun _ => .ite (fun _ => .stop _ _) fun _ => ?_) fun _ => ?_
        · exact (alike_skipDigits hw r').bind fun _ r₁ h₁ => .pure _ (by omega)
        · exact (alike_exponentDigits negative significand start positive _ (by omega)
            (by omega)).mono (Nat.le_of_lt hlt)
      · exact (alike_double _ _ _ _).mono hlt
    · subst hr
      rcases o with _ | b
      · exact alike_double _ _ _ _
      · dsimp only
        rw [isDigit_of_isBlank (ho b rfl), if_neg (by decide)]
        exact alike_double _ _ _ _

/-- The digits of an exponent, whose sign was read. -/
def exponentBehindSign (negative : Bool) (significand : Nat) (start : Int) (positive : Bool) :
    Scan Number := do
  match ← peek with
  | none => fail .eofValue
  | some c =>
    if isDigit c then
      drop
      fun cs => exponentDigits negative significand start positive (cs.length + 1)
        (digitValue c) cs
    else failAfterByte .invalidNumber

theorem alike_exponentBehindSign (negative : Bool) (significand : Nat) (start : Int)
    (positive : Bool) (r : List Char) :
    Alike w r.length (exponentBehindSign negative significand start positive)
      (exponentBehindSign negative significand start positive) r := by
  refine .peek hw (fun c r' hlt => ?_) fun _ o ho => ?_
  · refine .ite (fun _ => .drop ?_) fun _ => .stop _ _
    refine (alike_exponentDigits hw negative significand start positive _ ?_ ?_).mono
      (Nat.le_of_lt hlt) <;> simp [symbols]
  · rcases o with _ | b
    · exact .stop _ _
    · dsimp only
      rw [isDigit_of_isBlank (ho b rfl), if_neg (by decide)]
      exact .stop _ _

theorem alike_exponentPart (negative : Bool) (significand : Nat) (start : Int) {c : Char}
    (r : List Char) :
    Alike w r.length (exponentPart negative significand start)
      (exponentPart negative significand start) (c :: r) := by
  have hdigits (positive : Bool) (r₁ : List Char) :=
    alike_exponentBehindSign hw negative significand start positive r₁
  refine .drop (.peek hw (fun c r' hlt => ?_) fun hr o ho => ?_)
  · split
    · exact .drop ((hdigits true r').mono (Nat.le_of_lt hlt))
    · exact .drop ((hdigits false r').mono (Nat.le_of_lt hlt))
    · exact (hdigits true (c :: r')).mono hlt
  · subst hr
    split
    · cases (ho '+' rfl).symm.trans (by decide : Text.isBlank '+' = false)
    · cases (ho '-' rfl).symm.trans (by decide : Text.isBlank '-' = false)
    · exact hdigits true []

omit hw in
theorem isExponentLetter_of_isBlank {o : Option Char}
    (ho : ∀ b, o = some b → Text.isBlank b = true) : isExponentLetter o = false := by
  rcases o with _ | b
  · rfl
  · have hlower := ne_of_isBlank (ho b rfl) (by decide : Text.isBlank 'e' = false)
    have hupper := ne_of_isBlank (ho b rfl) (by decide : Text.isBlank 'E' = false)
    simp [isExponentLetter, hlower, hupper]

theorem alike_fractionPart (negative : Bool) (significand : Nat) (start : Int) {c : Char}
    (r : List Char) :
    Alike w r.length (fractionPart negative significand start)
      (fractionPart negative significand start) (c :: r) := by
  refine .drop ((alike_gather hw significand r).bind fun taken r₁ h₁ => ?_)
  refine (alike_skipDigits hw r₁).bind fun extra r₂ h₂ => ?_
  refine .ite (fun _ => ?_) fun _ => ?_
  · refine .peek hw (fun c r' _ => .stop _ _) fun _ o _ => ?_
    rcases o with _ | b <;> exact .stop _ _
  · refine .peek hw (fun c r' hlt => ?_) fun hr o ho => ?_
    · refine .ite (fun _ => (alike_exponentPart hw _ _ _ _).mono (by omega)) fun _ => ?_
      exact (alike_double _ _ _ _).mono (by simp only [List.length_cons]; omega)
    · rw [isExponentLetter_of_isBlank ho]
      exact (alike_double _ _ _ _).mono (Nat.zero_le _)

theorem alike_afterInteger (negative : Bool) (significand extra : Nat) (r : List Char) :
    Alike w r.length (afterInteger negative significand extra)
      (afterInteger negative significand extra) r := by
  refine .peek hw (fun c r' hlt => ?_) fun hr o ho => ?_
  · split
    · exact (alike_fractionPart hw _ _ _ _).mono (Nat.le_of_lt hlt)
    · refine .ite (fun _ => (alike_exponentPart hw _ _ _ _).mono (Nat.le_of_lt hlt)) fun _ => ?_
      exact .ite (fun _ => .pure _ hlt) fun _ => (alike_double _ _ _ _).mono hlt
  · subst hr
    split
    · cases (ho '.' rfl).symm.trans (by decide : Text.isBlank '.' = false)
    · have hnone : isExponentLetter none = false := rfl
      rw [isExponentLetter_of_isBlank ho, hnone, if_neg Bool.false_ne_true]
      exact .ite (fun _ => .pure _ (Nat.le_refl _)) fun _ => alike_double _ _ _ _

/-- A number starts with a digit, which is taken. -/
theorem alike_numberBody (negative : Bool) (r : List Char) :
    Alike w (r.length - 1) (numberBody negative) (numberBody negative) r := by
  refine .peek hw (fun c r' hlt => ?_) fun hr o ho => ?_
  · refine .ite (fun _ => .drop ?_) fun _ => .ite (fun hc => ?_) fun _ => .stop _ _
    · refine (alike_nextIsDigit hw r').bind fun another r₁ h₁ => ?_
      exact .ite (fun _ => .stop _ _) fun _ => (alike_afterInteger hw _ _ _ _).mono (by omega)
    · refine (alike_gather_digit hw hc r').bind fun taken r₁ h₁ => ?_
      refine (alike_skipDigits hw r₁).bind fun extra r₂ h₂ => ?_
      exact (alike_afterInteger hw _ _ _ _).mono (by omega)
  · rcases o with _ | b
    · exact .stop _ _
    · dsimp only
      rw [if_neg (ne_of_isBlank (ho b rfl) (by decide)), isDigit_of_isBlank (ho b rfl),
        if_neg (by decide)]
      exact .stop _ _

/-! ## Elements and members -/

omit hw in
theorem stops_of_peeked {α β : Type} {f : Scan α} {F : α → Scan β} {cs : List Char}
    (h : Stops f cs) : Stops (f >>= F) cs := by
  obtain ⟨stop, h⟩ := h
  refine ⟨stop, ?_⟩
  change (f (symbols cs)).bind (fun p => F p.1 p.2) = _
  rw [h]
  rfl

/-- Another element follows behind a comma, so something is taken before it unless it is the
first. -/
theorem Alike.anotherElement {α : Type} {n : Nat} {F G : Bool → Scan α} {first : Bool}
    {r : List Char} (hstops : ∀ cs, (∀ c ∈ cs, Text.isBlank c = true) → Stops (F true) cs)
    (hmore : ∀ c r', r'.length + (if first then 1 else 2) ≤ r.length →
      Alike w n (F true) (G true) (c :: r'))
    (hend : ∀ c r', r'.length < r.length → Alike w n (F false) (G false) (c :: r')) :
    Alike w n (Json.anotherElement first >>= F) (Json.anotherElement first >>= G) r := by
  unfold Json.anotherElement
  rw [bind_assoc, bind_assoc]
  -- First what the text goes on with, then the blanks behind its end, where both break off.
  refine .peekPastBlanks (fun c r₁ h₁ => ?_) (.peekPastBlanks hw fun o ho cs hcs => ?_) ⟨_, rfl⟩
  · split
    · exact .stop _ _
    · exact hend _ _ h₁
    · cases first with
      | true => exact hmore _ _ h₁
      | false =>
        rw [if_neg Bool.false_ne_true]
        split
        · simp only [bind_assoc]
          refine .drop (.peekPastBlanks (fun c r₂ h₂ => ?_)
            (.peekPastBlanks hw fun o ho cs hcs => ?_) ⟨_, rfl⟩)
          · split
            · exact .stop _ _
            · refine hmore _ _ ?_
              simp only [Bool.false_eq_true, if_false]
              omega
            · exact .stop _ _
          · split
            · exact ⟨_, rfl⟩
            · exact hstops cs hcs
            · exact ⟨_, rfl⟩
        · exact .stop _ _
  · split
    · exact ⟨_, rfl⟩
    · cases (ho ']' rfl).symm.trans (by decide : Text.isBlank ']' = false)
    · cases first with
      | true => exact hstops cs hcs
      | false =>
        rw [if_neg Bool.false_ne_true, if_neg (ne_of_isBlank (ho _ rfl) (by decide))]
        exact ⟨_, rfl⟩

/-- Another member follows behind a comma, and begins with a quote. -/
theorem Alike.anotherMember {α : Type} {n : Nat} {F G : Bool → Scan α} {first : Bool}
    {r : List Char}
    (hmore : ∀ c r', r'.length + (if first then 1 else 2) ≤ r.length →
      Alike w n (F true) (G true) (c :: r'))
    (hend : ∀ c r', r'.length < r.length → Alike w n (F false) (G false) (c :: r')) :
    Alike w n (Json.anotherMember first >>= F) (Json.anotherMember first >>= G) r := by
  unfold Json.anotherMember
  rw [bind_assoc, bind_assoc]
  refine .peekPastBlanks (fun c r₁ h₁ => ?_) (.peekPastBlanks hw fun o ho cs hcs => ?_) ⟨_, rfl⟩
  · split
    · exact .stop _ _
    · exact hend _ _ h₁
    · cases first with
      | true =>
        rw [if_pos rfl]
        split
        · exact hmore _ _ h₁
        · exact .stop _ _
      | false =>
        rw [if_neg Bool.false_ne_true]
        split
        · simp only [bind_assoc]
          refine .drop (.peekPastBlanks (fun c r₂ h₂ => ?_)
            (.peekPastBlanks hw fun o ho cs hcs => ?_) ⟨_, rfl⟩)
          · split
            · refine hmore _ _ ?_
              simp only [Bool.false_eq_true, if_false]
              omega
            · exact .stop _ _
            · exact .stop _ _
            · exact .stop _ _
          · split
            · cases (ho '"' rfl).symm.trans (by decide : Text.isBlank '"' = false)
            · exact ⟨_, rfl⟩
            · exact ⟨_, rfl⟩
            · exact ⟨_, rfl⟩
        · exact .stop _ _
  · split
    · exact ⟨_, rfl⟩
    · cases (ho '\x7d' rfl).symm.trans (by decide : Text.isBlank '\x7d' = false)
    · cases first with
      | true =>
        rw [if_pos rfl, if_neg (ne_of_isBlank (ho _ rfl) (by decide))]
        exact ⟨_, rfl⟩
      | false =>
        rw [if_neg Bool.false_ne_true, if_neg (ne_of_isBlank (ho _ rfl) (by decide))]
        exact ⟨_, rfl⟩

theorem alike_colon (r : List Char) : Alike w r.length colon colon r := by
  refine .peekPastBlanks (fun c r' hlt => ?_) (.peekPastBlanks hw fun o ho cs hcs => ?_) ⟨_, rfl⟩
  · split
    · exact .ok () (Nat.le_of_lt hlt)
    · exact .stop _ _
    · exact .stop _ _
  · split
    · cases (ho ':' rfl).symm.trans (by decide : Text.isBlank ':' = false)
    · exact ⟨_, rfl⟩
    · exact ⟨_, rfl⟩

section Values

variable {f : Scan Json} (hf : ∀ r, Alike w (r.length - 1) f f r)
  (hstops : ∀ cs, (∀ c ∈ cs, Text.isBlank c = true) → Stops f cs)
include hf

include hstops in
theorem alike_elements : ∀ {n m : Nat} {first : Bool} {taken : List Json} {r : List Char},
    r.length + w.length < n → r.length < m →
      Alike w r.length (elements f n first taken) (elements f m first taken) r
  -- Both have fuel for their text, and each element takes a character of it.
  | n + 1, m + 1, first, taken, r, hn, hm => by
    refine .anotherElement hw (fun cs hcs => ?_) (fun c r' h' => ?_) fun c r' h' => ?_
    · rw [if_pos rfl]
      exact stops_of_peeked (hstops cs hcs)
    · have hlt : r'.length < r.length := by split at h' <;> omega
      rw [if_pos rfl, if_pos rfl]
      refine (hf (c :: r')).bind fun v r₁ h₁ => ?_
      rw [List.length_cons] at h₁
      exact (alike_elements (by omega) (by omega)).mono (by omega)
    · rw [if_neg Bool.false_ne_true, if_neg Bool.false_ne_true]
      exact .drop (.pure _ (Nat.le_of_lt h'))

theorem alike_members : ∀ {n m : Nat} {first : Bool} {taken : Entries String Json}
    {r : List Char}, r.length + w.length < n → r.length < m →
      Alike w r.length (members f n first taken) (members f m first taken) r
  | n + 1, m + 1, first, taken, r, hn, hm => by
    refine .anotherMember hw (fun c r' h' => ?_) fun c r' h' => ?_
    · have hlt : r'.length < r.length := by split at h' <;> omega
      rw [if_pos rfl, if_pos rfl]
      have hkey : Alike w r'.length key key (c :: r') := .drop (alike_stringBody hw r')
      refine hkey.bind fun k r₁ h₁ => (alike_colon hw r₁).bind fun _ r₂ h₂ => ?_
      refine (hf r₂).bind fun v r₃ h₃ => ?_
      exact (alike_members (by omega) (by omega)).mono (by omega)
    · rw [if_neg Bool.false_ne_true, if_neg Bool.false_ne_true]
      exact .drop (.pure _ (Nat.le_of_lt h'))

end Values

/-- What a scan for the values inside must keep to. -/
def AlikeInside (w : List Char) (inner : Option (Scan Json)) : Prop :=
  ∀ f, inner = some f → (∀ r, Alike w (r.length - 1) f f r) ∧
    ∀ cs, (∀ c ∈ cs, Text.isBlank c = true) → Stops f cs

omit hw in
/-- A value begins with its first character that is no blank, which white space is not. -/
theorem valueOver_eq (inner : Option (Scan Json)) : ∃ F : Option Char → Scan Json,
    valueOver inner = (peekPastBlanks >>= F) ∧
      ∀ o : Option Char, (∀ b, o = some b → Text.isBlank b = true) → ∀ cs, Stops (F o) cs := by
  refine ⟨_, rfl, fun o ho cs => ?_⟩
  have hne {c : Char} (hc : Text.isBlank c = false) : o ≠ some c := fun h =>
    ne_of_isBlank (ho c h) hc rfl
  split
  · exact ⟨_, rfl⟩
  · exact absurd rfl (hne (by decide))
  · exact absurd rfl (hne (by decide))
  · exact absurd rfl (hne (by decide))
  · exact absurd rfl (hne (by decide))
  · exact absurd rfl (hne (by decide))
  · exact absurd rfl (hne (by decide))
  · exact absurd rfl (hne (by decide))
  · rw [isDigit_of_isBlank (ho _ rfl)]
    exact ⟨_, rfl⟩

omit hw in
theorem stops_valueOver (inner : Option (Scan Json)) {cs : List Char}
    (hcs : ∀ c ∈ cs, Text.isBlank c = true) : Stops (valueOver inner) cs := by
  obtain ⟨F, hF, hstops⟩ := valueOver_eq inner
  rw [hF]
  exact .peekPastBlanks hcs fun o ho cs _ => hstops o ho cs

theorem alike_valueOver {inner : Option (Scan Json)} (hinner : AlikeInside w inner)
    (r : List Char) : Alike w (r.length - 1) (valueOver inner) (valueOver inner) r := by
  refine .peekPastBlanks (fun c r' hlt => ?_) (stops_valueOver inner hw) ⟨_, rfl⟩
  have hle : r'.length ≤ r.length - 1 := by omega
  split
  · exact .stop _ _
  · exact .drop ((alike_word hw (by simp [Text.isBlank]) r').bind fun _ r₁ h₁ => .pure _ (by omega))
  · exact .drop ((alike_word hw (by simp [Text.isBlank]) r').bind fun _ r₁ h₁ => .pure _ (by omega))
  · exact .drop ((alike_word hw (by simp [Text.isBlank]) r').bind fun _ r₁ h₁ => .pure _ (by omega))
  · exact .drop ((alike_numberBody hw true r').bind fun _ r₁ h₁ => .pure _ (by omega))
  · exact .drop ((alike_stringBody hw r').bind fun _ r₁ h₁ => .pure _ (by omega))
  · rcases inner with _ | f
    · exact .stop _ _
    · obtain ⟨hf, hstops⟩ := hinner f rfl
      refine .drop ((alike_elements hw hf hstops ?_ ?_).mono hle) <;> simp [symbols]
  · rcases inner with _ | f
    · exact .stop _ _
    · obtain ⟨hf, hstops⟩ := hinner f rfl
      refine .drop ((alike_members hw hf ?_ ?_).mono hle) <;> simp [symbols]
  · refine .ite (fun _ => ?_) fun _ => .stop _ _
    refine (alike_numberBody hw false _).bind fun _ r₁ h₁ => .pure _ ?_
    rw [List.length_cons] at h₁
    omega

theorem alike_value : ∀ (depth : Nat) (r : List Char),
    Alike w (r.length - 1) (value depth) (value depth) r
  | 0, r => by
    have hinner : AlikeInside w none := fun _ h => nomatch h
    exact alike_valueOver hw hinner r
  | depth + 1, r => by
    refine alike_valueOver hw (fun f hf => ?_) r
    cases hf
    exact ⟨alike_value depth, fun cs hcs => by cases depth <;> exact stops_valueOver _ hcs⟩

end Scans

/-! ## Whole texts -/

theorem isBlank_toText {c : Char} (h : isBlank c = true) : Text.isBlank c = true := by
  simp only [isBlank, Bool.or_eq_true, decide_eq_true_eq] at h
  rcases h with ((rfl | rfl) | rfl) | rfl <;> decide

theorem endOfText_iff {cs : List Char} :
    (∃ p, endOfText (symbols cs) = .ok p) ↔ ∀ c ∈ cs, isBlank c = true := by
  rw [← List.dropWhile_eq_nil_iff]
  obtain ⟨F, hF, hmore, hend⟩ : ∃ F : Option Char → Scan Unit, endOfText = (peekPastBlanks >>= F) ∧
      (∀ c cs, ∃ stop, F (some c) cs = .error stop) ∧ ∀ cs, F none cs = .ok ((), cs) :=
    ⟨_, rfl, fun _ _ => ⟨_, rfl⟩, fun _ => rfl⟩
  rw [hF]
  change (∃ p, F (((symbols cs).dropWhile (isBlank ·.char)).head?.map (·.char))
    ((symbols cs).dropWhile (isBlank ·.char)) = .ok p) ↔ _
  rw [symbols_dropWhile]
  rcases cs.dropWhile isBlank with _ | ⟨c, left⟩
  · exact ⟨fun _ => rfl, fun _ => ⟨_, hend _⟩⟩
  · obtain ⟨stop, hstop⟩ := hmore c (symbols (c :: left))
    refine ⟨?_, fun h => absurd h (List.cons_ne_nil c left)⟩
    rintro ⟨p, hp⟩
    cases hstop.symm.trans hp

/-- A text is JSON if a value is read from its front and leaves nothing but blanks. -/
theorem parse_eq_ok_iff {text : String} {v : Json} : parse text = .ok v ↔
    ∃ rest, value maxNesting (symbols text.toList) = .ok (v, rest) ∧
      ∃ p, endOfText rest = .ok p := by
  have hrun : (do
      let a ← value maxNesting
      endOfText
      pure a : Scan Json).run (symbols text.toList) =
        (value maxNesting (symbols text.toList)).bind fun p =>
          (endOfText p.2).bind fun q => .ok (p.1, q.2) := rfl
  have htext : Symbol.ofText text = symbols text.toList := rfl
  unfold parse Scan.complete
  rw [htext, hrun]
  rcases value maxNesting (symbols text.toList) with stop | ⟨a, rest⟩
  · constructor
    · intro h
      cases h
    · rintro ⟨_, h, _⟩
      cases h
  · constructor
    · intro h
      simp only [Except.bind] at h
      rcases hend : endOfText rest with stop | q
      · rw [hend] at h
        cases h
      · rw [hend] at h
        cases h
        exact ⟨rest, rfl, q, hend⟩
    · rintro ⟨_, h, q, hq⟩
      cases h
      simp only [Except.bind, hq]

theorem exists_valueOver (depth : Nat) : ∃ inner, value depth = valueOver inner := by
  cases depth <;> exact ⟨_, rfl⟩

/-- Blanks in front of a value are passed over. -/
theorem value_append {depth : Nat} {lead : List Char} (hlead : ∀ c ∈ lead, isBlank c = true)
    (r : List Char) : value depth (symbols (lead ++ r)) = value depth (symbols r) := by
  obtain ⟨inner, hinner⟩ := exists_valueOver depth
  obtain ⟨F, hF, -⟩ := valueOver_eq inner
  have hdrop : (lead ++ r).dropWhile isBlank = r.dropWhile isBlank :=
    List.dropWhile_append_of_pos hlead
  rw [hinner, hF]
  change F (((symbols (lead ++ r)).dropWhile (isBlank ·.char)).head?.map (·.char))
      ((symbols (lead ++ r)).dropWhile (isBlank ·.char)) =
    F (((symbols r).dropWhile (isBlank ·.char)).head?.map (·.char))
      ((symbols r).dropWhile (isBlank ·.char))
  rw [symbols_dropWhile, symbols_dropWhile, hdrop]

/-- White space in front of a value is blank to JSON. -/
theorem isBlank_of_value {depth : Nat} {lead r : List Char} {p : Json × List Symbol}
    (hlead : ∀ c ∈ lead, Text.isBlank c = true)
    (h : value depth (symbols (lead ++ r)) = .ok p) : ∀ c ∈ lead, isBlank c = true := by
  obtain ⟨inner, hinner⟩ := exists_valueOver depth
  obtain ⟨F, hF, hstops⟩ := valueOver_eq inner
  rcases hleft : lead.dropWhile isBlank with _ | ⟨c, rest⟩
  · exact List.dropWhile_eq_nil_iff.1 hleft
  · have hc : Text.isBlank c = true :=
      hlead c ((List.dropWhile_suffix isBlank).subset (hleft ▸ List.mem_cons_self))
    have hdrop : (symbols (lead ++ r)).dropWhile (isBlank ·.char) = symbols (c :: (rest ++ r)) := by
      rw [symbols_dropWhile, List.dropWhile_append, hleft]
      rfl
    rw [hinner, hF] at h
    change F (((symbols (lead ++ r)).dropWhile (isBlank ·.char)).head?.map (·.char))
      ((symbols (lead ++ r)).dropWhile (isBlank ·.char)) = .ok p at h
    rw [hdrop] at h
    obtain ⟨stop, hstop⟩ := hstops (some c) (fun b hb => Option.some.inj hb ▸ hc) (c :: (rest ++ r))
    cases h.symm.trans hstop

/-- What is JSON stays the same value when white space around it is left out. -/
theorem parse_of_surrounded {lead t trail : List Char}
    (hlead : ∀ c ∈ lead, Text.isBlank c = true) (htrail : ∀ c ∈ trail, Text.isBlank c = true)
    {v : Json} (h : parse (String.ofList (lead ++ t ++ trail)) = .ok v) :
    parse (String.ofList t) = .ok v := by
  obtain ⟨rest, hvalue, p, hend⟩ := parse_eq_ok_iff.1 h
  rw [String.toList_ofList, List.append_assoc] at hvalue
  have halike := alike_value htrail maxNesting t
  unfold Alike at halike
  rw [← value_append (isBlank_of_value hlead hvalue), hvalue] at halike
  generalize hv : value maxNesting (symbols t) = outcome at halike
  cases halike with
  | ok _ hr =>
    rename_i r
    refine parse_eq_ok_iff.2 ⟨symbols r, by rw [String.toList_ofList, hv], endOfText_iff.2 ?_⟩
    exact fun c hc => endOfText_iff.1 ⟨p, hend⟩ c (List.mem_append_left trail hc)

/-- Blanks around JSON leave it JSON. -/
theorem parse_surrounded {lead t trail : List Char} (hlead : ∀ c ∈ lead, isBlank c = true)
    (htrail : ∀ c ∈ trail, isBlank c = true) {v : Json}
    (h : parse (String.ofList t) = .ok v) :
    parse (String.ofList (lead ++ t ++ trail)) = .ok v := by
  obtain ⟨rest, hvalue, p, hend⟩ := parse_eq_ok_iff.1 h
  rw [String.toList_ofList] at hvalue
  have halike := alike_value (fun c hc => isBlank_toText (htrail c hc)) maxNesting t
  unfold Alike at halike
  rw [hvalue] at halike
  generalize hv : value maxNesting (symbols (t ++ trail)) = outcome at halike
  cases halike with
  | ok _ hr =>
    rename_i r
    refine parse_eq_ok_iff.2 ⟨symbols (r ++ trail), ?_, endOfText_iff.2 ?_⟩
    · rw [String.toList_ofList, List.append_assoc, value_append hlead, hv]
    · exact List.forall_mem_append.2 ⟨endOfText_iff.1 ⟨p, hend⟩, htrail⟩

end JsonTypes.Json
