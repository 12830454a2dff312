import Mathlib.Data.List.TakeWhile
import JsonTypes.Json.Scan
import JsonTypes.Yaml.Cursor

/-!
# Padded texts

A text with white space around it is scanned side by side with the text alone. `Follows` says that
where the first scan succeeds so does the second, and how what they end with is related. As long as
both are in the text the cursors stand at one place (`Along`), but for the white space in front,
which moves the place by some characters and lines. Only where the text has ended can the scan of
the padded text go on alone, and then it is in the white space behind (`Past`).
-/

namespace JsonTypes.Yaml

/-! ## Scans side by side -/

theorem guard_pos {f : Type → Type} [Alternative f] {q : Prop} [Decidable q] (hq : q) :
    (guard q : f Unit) = pure () := if_pos hq

theorem guard_neg {f : Type → Type} [Alternative f] {q : Prop} [Decidable q] (hq : ¬q) :
    (guard q : f Unit) = failure := if_neg hq

/-- Where the first succeeds so does the second, with related values and states. -/
def Follows {σ τ α β : Type} (f : StateT σ Option α) (g : StateT τ Option β) (x : σ) (y : τ)
    (Q : α → σ → β → τ → Prop) : Prop :=
  ∀ a x', f x = some (a, x') → ∃ b y', g y = some (b, y') ∧ Q a x' b y'

namespace Follows

variable {σ τ α β γ δ : Type} {f : StateT σ Option α} {g : StateT τ Option β} {x : σ} {y : τ}
  {Q : α → σ → β → τ → Prop} {R : γ → σ → δ → τ → Prop}

theorem mono {Q' : α → σ → β → τ → Prop} (h : Follows f g x y Q)
    (himp : ∀ a x' b y', Q a x' b y' → Q' a x' b y') : Follows f g x y Q' := by
  intro a x' ha
  obtain ⟨b, y', hb, hQ⟩ := h a x' ha
  exact ⟨b, y', hb, himp a x' b y' hQ⟩

protected theorem pure {a : α} {b : β} (h : Q a x b y) : Follows (pure a) (pure b) x y Q := by
  rintro _ _ ⟨⟩
  exact ⟨b, y, rfl, h⟩

theorem of_fails (h : f x = none) : Follows f g x y Q := by
  intro a x' ha
  cases h.symm.trans ha

protected theorem bind {F : α → StateT σ Option γ} {G : β → StateT τ Option δ}
    (h : Follows f g x y Q)
    (hnext : ∀ a x' b y', Q a x' b y' → Follows (F a) (G b) x' y' R) :
    Follows (f >>= F) (g >>= G) x y R := by
  intro c z hc
  obtain ⟨⟨a, x'⟩, ha, hc⟩ := Option.bind_eq_some_iff.1 hc
  obtain ⟨b, y', hb, hQ⟩ := h a x' ha
  obtain ⟨d, z', hd, hR⟩ := hnext a x' b y' hQ c z hc
  exact ⟨d, z', Option.bind_eq_some_iff.2 ⟨(b, y'), hb, hd⟩, hR⟩

theorem congr_run {f' : StateT σ Option α} {g' : StateT τ Option β} (hf : f x = f' x)
    (hg : g y = g' y) (h : Follows f' g' x y Q) : Follows f g x y Q := fun a x' ha => by
  rw [hg]
  exact h a x' (hf ▸ ha)

/-- What the scans end with is what they end with. -/
theorem runs (h : Follows f g x y Q) : Follows f g x y fun a x' b y' =>
    Q a x' b y' ∧ f x = some (a, x') ∧ g y = some (b, y') := by
  intro a x' ha
  obtain ⟨b, y', hb, hQ⟩ := h a x' ha
  exact ⟨b, y', hb, hQ, ha, hb⟩

theorem ite {p q : Prop} [Decidable p] [Decidable q] {f' : StateT σ Option α}
    {g' : StateT τ Option β} (hpq : p ↔ q) (hpos : p → Follows f g x y Q)
    (hneg : ¬ p → Follows f' g' x y Q) :
    Follows (if p then f else f') (if q then g else g') x y Q := by
  by_cases hp : p
  · rw [if_pos hp, if_pos (hpq.1 hp)]
    exact hpos hp
  · rw [if_neg hp, if_neg fun hq => hp (hpq.2 hq)]
    exact hneg hp

theorem guarded {p q : Prop} [Decidable p] [Decidable q]
    {Q : Unit → σ → Unit → τ → Prop} (h : p → q ∧ Q () x () y) :
    Follows (guard p) (guard q) x y Q := by
  by_cases hp : p
  · obtain ⟨hq, hQ⟩ := h hp
    rw [guard_pos hp, guard_pos hq]
    exact .pure hQ
  · refine of_fails ?_
    rw [guard_neg hp]
    rfl

theorem guard_bind {p q : Prop} [Decidable p] [Decidable q] {F : Unit → StateT σ Option γ}
    {G : Unit → StateT τ Option δ} (hpq : p → q) (h : p → Follows (F ()) (G ()) x y R) :
    Follows (guard p >>= F) (guard q >>= G) x y R :=
  (guarded (Q := fun _ x' _ y' => p ∧ x' = x ∧ y' = y) fun hp => ⟨hpq hp, hp, rfl, rfl⟩).bind
    fun _ _ _ _ hq => by
      obtain ⟨hp, rfl, rfl⟩ := hq
      exact h hp

end Follows

/-! ## Cursors in a padded text -/

/-- A text with white space around it. Of the white space in front only its characters and lines
count, as no line of the text begins in it. -/
structure Padding where
  text : List Char
  /-- The white space behind the text. -/
  trail : List Char
  /-- How many characters and how many lines the white space in front has. -/
  index : Nat
  line : Nat
  blank : ∀ c ∈ trail, Json.isBlank c = true
  visible : ∀ c, text.getLast? = some c → isGap [c] = false

/-- A cursor in the padded text that stands where another stands in the text. -/
structure Along (p : Padding) (x y : Cursor) : Prop where
  rest : x.rest = y.rest ++ p.trail
  index : x.index = y.index + p.index
  line : x.line = y.line + p.line
  column : x.column = y.column
  within : y.rest <:+ p.text

/-- A cursor in the white space behind the text, where the cursor in the text is at its end. -/
structure Past (p : Padding) (x y : Cursor) : Prop where
  ended : y.rest = []
  left : x.rest <:+ p.trail
  crossed : x.rest.length < p.trail.length
  index : y.index + p.index ≤ x.index
  line : y.line + p.line ≤ x.line

/-- Whether the cursors stand at one place as long as the text has not ended. -/
def Near (p : Padding) (x y : Cursor) : Prop := Along p x y ∨ Past p x y

/-- The same values, and cursors that stand at one place with so many characters left at most. -/
def Keeps {α : Type} (p : Padding) (n : Nat) (a : α) (x : Cursor) (b : α) (y : Cursor) : Prop :=
  a = b ∧ Along p x y ∧ y.rest.length ≤ n

/-- The same, unless the text has ended. -/
def Nears {α : Type} (p : Padding) (n : Nat) (a : α) (x : Cursor) (b : α) (y : Cursor) : Prop :=
  Keeps p n a x b y ∨ Past p x y

theorem cases_of_isBlank {c : Char} (h : Json.isBlank c = true) :
    c = ' ' ∨ c = '\n' ∨ c = '\t' ∨ c = '\r' := by
  simpa [Json.isBlank, or_assoc] using h

theorem isGap_of_isBlank {c : Char} (h : Json.isBlank c = true) (cs : List Char) :
    isGap (c :: cs) = true := by
  obtain rfl | rfl | rfl | rfl := cases_of_isBlank h <;> rfl

theorem takeWhile_blank {fits : Char → Bool} {cs : List Char}
    (hcs : ∀ c ∈ cs, Json.isBlank c = true)
    (hfits : ∀ c, Json.isBlank c = true → (fits c && !isBreak c) = false) :
    (cs.takeWhile fun c => fits c && !isBreak c) = [] := by
  rcases cs with _ | ⟨c, cs⟩
  · rfl
  · rw [List.takeWhile_cons_of_neg]
    rw [hfits c (hcs c List.mem_cons_self)]
    exact Bool.false_ne_true

/-! ## Moving on -/

/-- A cursor further on in the same text. -/
structure Forward (x x' : Cursor) : Prop where
  rest : x'.rest <:+ x.rest
  index : x.index ≤ x'.index
  line : x.line ≤ x'.line

theorem Forward.refl (x : Cursor) : Forward x x := ⟨List.suffix_rfl, le_rfl, le_rfl⟩

theorem Forward.trans {x y z : Cursor} (h : Forward x y) (h' : Forward y z) : Forward x z :=
  ⟨h'.rest.trans h.rest, h.index.trans h'.index, h.line.trans h'.line⟩

/-- A scan never goes back. -/
def Advances {α : Type} (f : Scan α) : Prop := ∀ x a x', f x = some (a, x') → Forward x x'

namespace Advances

variable {α β : Type} {f g : Scan α}

protected theorem pure (a : α) : Advances (pure a) := by
  rintro x _ _ ⟨⟩
  exact .refl x

theorem failure : Advances (failure : Scan α) := nofun

protected theorem bind {F : α → Scan β} (h : Advances f) (hnext : ∀ a, Advances (F a)) :
    Advances (f >>= F) := by
  intro x b z hb
  obtain ⟨⟨a, y⟩, ha, hb⟩ := Option.bind_eq_some_iff.1 hb
  exact (h x a y ha).trans (hnext a y b z hb)

theorem ite {q : Prop} [Decidable q] (hf : Advances f) (hg : Advances g) :
    Advances (if q then f else g) := by
  split
  · exact hf
  · exact hg

theorem guarded (q : Prop) [Decidable q] : Advances (guard q : Scan Unit) :=
  ite (.pure ()) failure

theorem peek : Advances Scan.peek := by
  rintro x _ _ ⟨⟩
  exact .refl x

theorem rest : Advances Scan.rest := by
  rintro x _ _ ⟨⟩
  exact .refl x

theorem column : Advances Scan.column := by
  rintro x _ _ ⟨⟩
  exact .refl x

theorem atDocumentMark : Advances Scan.atDocumentMark := by
  rintro x _ _ ⟨⟩
  exact .refl x

theorem skip (n : Nat) : Advances (Scan.skip n) := by
  rintro x _ _ ⟨⟩
  exact ⟨List.drop_suffix n x.rest, Nat.le_add_right _ _, le_rfl⟩

theorem takeWhile (fits : Char → Bool) : Advances (Scan.takeWhile fits) := by
  rintro x _ _ ⟨⟩
  exact ⟨List.drop_suffix _ x.rest, Nat.le_add_right _ _, le_rfl⟩

theorem lineBreak : Advances Scan.lineBreak := by
  intro x a x' h
  unfold Scan.lineBreak at h
  split at h
  next cs hx =>
    cases h
    exact ⟨⟨['\r', '\n'], hx.symm⟩, Nat.le_add_right _ _, Nat.le_succ _⟩
  next c cs _ hx =>
    obtain ⟨-, h⟩ := Option.ite_none_right_eq_some.1 h
    cases h
    exact ⟨⟨[c], hx.symm⟩, Nat.le_succ _, Nat.le_succ _⟩
  · cases h

end Advances

/-! ## What the scans of cursors do -/

section Cursors

variable {p : Padding} {x y : Cursor} {α β : Type}

theorem Along.length (h : Along p x y) : x.rest.length = y.rest.length + p.trail.length := by
  rw [h.rest, List.length_append]

theorem Past.forward {x' : Cursor} (h : Past p x y) (hx : Forward x x') : Past p x' y where
  ended := h.ended
  left := hx.rest.trans h.left
  crossed := Nat.lt_of_le_of_lt hx.rest.length_le h.crossed
  index := h.index.trans hx.index
  line := h.line.trans hx.line

/-- Once the text has ended, what goes on in the padded text is in the white space behind. -/
theorem Along.past {x' : Cursor} (h : Along p x y) (hy : y.rest = []) (hx : Forward x x')
    (hlt : x'.rest.length < x.rest.length) : Past p x' y := by
  have hrest : x.rest = p.trail := by rw [h.rest, hy, List.nil_append]
  exact ⟨hy, hrest ▸ hx.rest, hrest ▸ hlt, by have := hx.index; have := h.index; omega,
    by have := hx.line; have := h.line; omega⟩

theorem Near.past {x' : Cursor} (h : Near p x y) (hy : y.rest = []) (hx : Forward x x')
    (hlt : x'.rest.length < x.rest.length) : Past p x' y :=
  h.elim (·.past hy hx hlt) (·.forward hx)

theorem Past.blank (h : Past p x y) : ∀ c ∈ x.rest, Json.isBlank c = true := fun c hc =>
  p.blank c (h.left.subset hc)

theorem Along.blank (h : Along p x y) (hy : y.rest = []) :
    ∀ c ∈ x.rest, Json.isBlank c = true := by
  rw [h.rest, hy, List.nil_append]
  exact p.blank

theorem Near.blank (h : Near p x y) (hy : y.rest = []) : ∀ c ∈ x.rest, Json.isBlank c = true :=
  h.elim (·.blank hy) (·.blank)

theorem isGap_of_blank {cs : List Char} (h : ∀ c ∈ cs, Json.isBlank c = true) :
    isGap cs = true := by
  rcases cs with _ | ⟨c, cs⟩
  · rfl
  · exact isGap_of_isBlank (h c List.mem_cons_self) cs

theorem Padding.isGap_append (r : List Char) : isGap (r ++ p.trail) = isGap r := by
  rcases r with _ | ⟨c, r⟩
  · exact isGap_of_blank p.blank
  · rfl

theorem Near.isGap_eq (h : Near p x y) : isGap x.rest = isGap y.rest := by
  rcases h with h | h
  · rw [h.rest, p.isGap_append]
  · rw [isGap_of_blank h.blank, h.ended]
    rfl

/-- A word without white space does not reach into what is behind the text. -/
theorem Padding.prefix_append_iff {word : List Char} (hword : ∀ c ∈ word, Json.isBlank c = false)
    (r : List Char) : word <+: r ++ p.trail ↔ word <+: r := by
  refine ⟨fun h => ?_, fun h => h.trans (List.prefix_append r _)⟩
  rcases List.prefix_or_prefix_of_prefix h (List.prefix_append r _) with h' | ⟨q, rfl⟩
  · exact h'
  · rcases q with _ | ⟨c, q⟩
    · simp
    · have hc := p.blank c (((List.prefix_append_right_inj r).1 h).subset List.mem_cons_self)
      cases (hword c (by simp)).symm.trans hc

/-- The last character of what is left of a text is that of the text. -/
theorem Padding.visible_of_suffix {r : List Char} (hr : r <:+ p.text) {c : Char}
    (hc : r.getLast? = some c) : isGap [c] = false := by
  obtain ⟨taken, htext⟩ := hr
  exact p.visible c (by rw [← htext, List.getLast?_append, hc]; rfl)

/-- What comes next is the same, if it is no white space. -/
theorem Near.head?_eq_some_iff (h : Near p x y) {c : Char} (hc : Json.isBlank c = false) :
    x.rest.head? = some c ↔ y.rest.head? = some c := by
  rcases hy : y.rest with _ | ⟨d, r⟩
  · refine ⟨fun hx => ?_, nofun⟩
    cases hc.symm.trans (h.blank hy c (List.mem_of_head? hx))
  · rcases h with h | h
    · rw [h.rest, hy]
      rfl
    · cases hy.symm.trans h.ended

theorem Along.head?_eq (h : Along p x y) (hne : y.rest ≠ []) : x.rest.head? = y.rest.head? := by
  obtain ⟨c, r, hy⟩ := List.exists_cons_of_ne_nil hne
  rw [h.rest, hy]
  rfl

/-- What is left of a text does not end in a gap. -/
theorem Padding.ne_nil_of_gap {c : Char} {r : List Char} (hr : c :: r <:+ p.text)
    (hc : isGap [c] = true) : r ≠ [] := by
  rintro rfl
  cases (p.visible_of_suffix (c := c) hr rfl).symm.trans hc

/-- So what is taken of a gap ends before the end of the text. -/
theorem Padding.takeWhile_append {r : List Char} (hr : r <:+ p.text) (hne : r ≠ [])
    {fits : Char → Bool} (hfits : ∀ c, fits c = true → isGap [c] = true) :
    (r ++ p.trail).takeWhile fits = r.takeWhile fits := by
  rw [List.takeWhile_append, if_neg]
  intro hall
  have hwhole := (List.takeWhile_prefix _).eq_of_length hall
  have hfit := List.all_eq_true.1 (List.all_takeWhile (l := r) (p := fits)) (r.getLast hne)
    (hwhole.symm ▸ List.getLast_mem hne)
  cases (p.visible_of_suffix hr (List.getLast?_eq_some_getLast hne)).symm.trans (hfits _ hfit)

theorem Along.step (h : Along p x y) {n : Nat} (hn : n ≤ y.rest.length) :
    Along p { x with rest := x.rest.drop n, index := x.index + n, column := x.column + n }
      { y with rest := y.rest.drop n, index := y.index + n, column := y.column + n } where
  rest := by
    change x.rest.drop n = y.rest.drop n ++ p.trail
    rw [h.rest, List.drop_append_of_le_length hn]
  index := by
    change x.index + n = y.index + n + p.index
    rw [h.index]
    omega
  line := h.line
  column := congrArg (· + n) h.column
  within := (List.drop_suffix n y.rest).trans h.within

theorem follows_skip (h : Along p x y) {n : Nat} (hn : n ≤ y.rest.length) :
    Follows (Scan.skip n) (Scan.skip n) x y (Keeps p (y.rest.length - n)) := by
  rintro _ _ ⟨⟩
  exact ⟨(), _, rfl, rfl, h.step hn, by simp⟩

theorem follows_column {Q : α → Cursor → β → Cursor → Prop} {F : Nat → Scan α} {G : Nat → Scan β}
    (h : Follows (F x.column) (G y.column) x y Q) :
    Follows (Scan.column >>= F) (Scan.column >>= G) x y Q := h

theorem follows_rest {Q : α → Cursor → β → Cursor → Prop} {F : List Char → Scan α}
    {G : List Char → Scan β} (h : Follows (F x.rest) (G y.rest) x y Q) :
    Follows (Scan.rest >>= F) (Scan.rest >>= G) x y Q := h

/-- A look at the next character, which may be white space behind the end of the text. -/
theorem follows_peek (h : Near p x y) {Q : α → Cursor → β → Cursor → Prop}
    {F : Option Char → Scan α} {G : Option Char → Scan β}
    (hmore : Along p x y → ∀ c r, y.rest = c :: r → Follows (F (some c)) (G (some c)) x y Q)
    (hend : y.rest = [] → ∀ o : Option Char, (∀ c, o = some c → Json.isBlank c = true) →
      Follows (F o) (G none) x y Q) :
    Follows (Scan.peek >>= F) (Scan.peek >>= G) x y Q := by
  intro a x' ha
  have hrun : F x.rest.head? x = some (a, x') := ha
  rcases hy : y.rest with _ | ⟨c, r⟩
  · have hblank := h.blank hy
    obtain ⟨b, y', hb, hQ⟩ :=
      hend hy x.rest.head? (fun c hc => hblank c (List.mem_of_head? hc)) a x' hrun
    exact ⟨b, y', by change G y.rest.head? y = _; rw [hy]; exact hb, hQ⟩
  · rcases h with h | h
    · rw [h.rest, hy] at hrun
      obtain ⟨b, y', hb, hQ⟩ := hmore h c r hy a x' hrun
      exact ⟨b, y', by change G y.rest.head? y = _; rw [hy]; exact hb, hQ⟩
    · cases hy.symm.trans h.ended

theorem follows_taken (h : Along p x y) {fits : Char → Bool}
    (htake : (y.rest ++ p.trail).takeWhile (fun c => fits c && !isBreak c) =
      y.rest.takeWhile fun c => fits c && !isBreak c) :
    Follows (Scan.takeWhile fits) (Scan.takeWhile fits) x y (Keeps p y.rest.length) := by
  have htaken : x.rest.takeWhile (fun c => fits c && !isBreak c) =
      y.rest.takeWhile fun c => fits c && !isBreak c := by rw [h.rest, htake]
  rintro _ _ ⟨⟩
  refine ⟨_, _, rfl, htaken, ?_, (List.drop_suffix _ _).length_le⟩
  rw [htaken]
  exact h.step (List.takeWhile_prefix _).length_le

/-- Taking what is no white space. -/
theorem follows_takeWhile (h : Along p x y) {fits : Char → Bool}
    (hfits : ∀ c, Json.isBlank c = true → (fits c && !isBreak c) = false) :
    Follows (Scan.takeWhile fits) (Scan.takeWhile fits) x y (Keeps p y.rest.length) := by
  refine follows_taken h ?_
  rw [List.takeWhile_append, takeWhile_blank p.blank hfits, List.append_nil]
  split
  next hall => exact ((List.takeWhile_prefix _).eq_of_length hall).symm
  · rfl

/-- Taking what is only white space, before the text has ended. -/
theorem follows_takeBlanks (h : Along p x y) (hne : y.rest ≠ []) {fits : Char → Bool}
    (hfits : ∀ c, fits c = true → isGap [c] = true) :
    Follows (Scan.takeWhile fits) (Scan.takeWhile fits) x y (Keeps p y.rest.length) := by
  refine follows_taken h (p.takeWhile_append h.within hne fun c hc => hfits c ?_)
  exact (Bool.and_eq_true_iff.1 hc).1

/-- A run of characters that goes on in the white space behind the text has passed the text. -/
theorem past_takeWhile (h : Along p x y) (fits : Char → Bool)
    (hall : (y.rest.takeWhile fun c => fits c && !isBreak c).length = y.rest.length)
    (hsome : 0 < (p.trail.takeWhile fun c => fits c && !isBreak c).length) :
    Follows (Scan.takeWhile fits) (Scan.takeWhile fits) x y fun _ x' _ y' => Past p x' y' := by
  have htaken : (x.rest.takeWhile fun c => fits c && !isBreak c).length =
      y.rest.length + (p.trail.takeWhile fun c => fits c && !isBreak c).length := by
    rw [h.rest, List.takeWhile_append, if_pos hall, List.length_append]
  have hleft : x.rest.drop (x.rest.takeWhile fun c => fits c && !isBreak c).length =
      p.trail.drop (p.trail.takeWhile fun c => fits c && !isBreak c).length := by
    rw [htaken, h.rest, ← List.drop_drop, List.drop_left]
  have hle := (List.takeWhile_prefix (l := p.trail) fun c => fits c && !isBreak c).length_le
  have hindex := h.index
  rintro _ _ ⟨⟩
  refine ⟨_, _, rfl, ?_, ?_, ?_, ?_, h.line.ge⟩
  · exact List.drop_eq_nil_of_le hall.ge
  · exact hleft ▸ List.drop_suffix _ _
  · change (x.rest.drop _).length < _
    rw [hleft, List.length_drop]
    omega
  · change y.index + _ + _ ≤ x.index + _
    rw [htaken]
    omega

/-- Taking anything, which may be white space behind the end of the text. -/
theorem nears_takeWhile (h : Near p x y) (fits : Char → Bool) :
    Follows (Scan.takeWhile fits) (Scan.takeWhile fits) x y (Nears p y.rest.length) := by
  rcases h with h | h
  · by_cases htake : (y.rest ++ p.trail).takeWhile (fun c => fits c && !isBreak c) =
        y.rest.takeWhile fun c => fits c && !isBreak c
    · exact (follows_taken h htake).mono fun _ _ _ _ => .inl
    · rw [List.takeWhile_append] at htake
      split at htake
      next hall =>
        have hsome : 0 < (p.trail.takeWhile fun c => fits c && !isBreak c).length := by
          refine List.length_pos_iff.2 fun hnil => htake ?_
          rw [hnil, List.append_nil]
          exact ((List.takeWhile_prefix _).eq_of_length hall).symm
        exact (past_takeWhile h fits hall hsome).mono fun _ _ _ _ => .inr
      · exact absurd rfl htake
  · intro a x' ha
    refine ⟨_, _, rfl, .inr ?_⟩
    have hpast := h.forward (Advances.takeWhile fits x a x' ha)
    exact ⟨by simp [h.ended], hpast.left, hpast.crossed, by simpa [h.ended] using hpast.index,
      hpast.line⟩

theorem lineBreak_eq {c : Char} {r : List Char} (hx : x.rest = c :: r) : Scan.lineBreak x =
    if c = '\r' ∧ r.head? = some '\n' then some ('\n', ⟨r.tail, x.index + 2, x.line + 1, 0⟩)
    else if isBreak c then some (breakValue c, ⟨r, x.index + 1, x.line + 1, 0⟩)
    else none := by
  unfold Scan.lineBreak
  rw [hx]
  split
  next cs heq =>
    cases heq
    rw [if_pos ⟨rfl, rfl⟩]
    rfl
  next hnot heq =>
    cases heq
    have hpair : ¬ (c = '\r' ∧ r.head? = some '\n') := by
      rintro ⟨rfl, hr⟩
      obtain ⟨tail, rfl⟩ := List.head?_eq_some_iff.1 hr
      exact hnot tail rfl rfl
    rw [if_neg hpair]
  next heq => cases heq

theorem lineBreak_lt {a : Char} {x' : Cursor} (h : Scan.lineBreak x = some (a, x')) :
    x'.rest.length < x.rest.length := by
  unfold Scan.lineBreak at h
  split at h
  next hx =>
    cases h
    simp only [hx, List.length_cons]
    omega
  next hx =>
    obtain ⟨-, h⟩ := Option.ite_none_right_eq_some.1 h
    cases h
    simp [hx]
  · cases h

/-- A text does not end in a line break. -/
theorem lineBreak_ne_nil {a : Char} {y' : Cursor} (hy : y.rest <:+ p.text)
    (h : Scan.lineBreak y = some (a, y')) : y'.rest ≠ [] := by
  unfold Scan.lineBreak at h
  split at h
  next cs hrest =>
    cases h
    exact p.ne_nil_of_gap ((List.suffix_cons '\r' _).trans (hrest ▸ hy)) (by decide : isGap ['\n'])
  next c cs _ hrest =>
    obtain ⟨hc, h⟩ := Option.ite_none_right_eq_some.1 h
    cases h
    exact p.ne_nil_of_gap (hrest ▸ hy) (by simp [isGap, hc] : isGap [c])
  · cases h

theorem follows_lineBreak (h : Along p x y) (hne : y.rest ≠ []) :
    Follows Scan.lineBreak Scan.lineBreak x y (Keeps p (y.rest.length - 1)) := by
  obtain ⟨c, r, hy⟩ := List.exists_cons_of_ne_nil hne
  have hx : x.rest = c :: (r ++ p.trail) := by rw [h.rest, hy]; rfl
  have hindex := h.index
  have hline := h.line
  have hwithin : c :: r <:+ p.text := hy ▸ h.within
  -- A carriage return is not the last character of the text, so what it stands with is in it.
  have hpair : (c = '\r' ∧ (r ++ p.trail).head? = some '\n') ↔ c = '\r' ∧ r.head? = some '\n' := by
    refine and_congr_right fun hc => ?_
    subst hc
    rcases r with _ | ⟨d, r⟩
    · cases p.visible_of_suffix (c := '\r') hwithin rfl
    · rfl
  intro a x' ha
  rw [lineBreak_eq hx] at ha
  split at ha
  next hc =>
    cases ha
    obtain ⟨d, r, rfl⟩ := List.exists_cons_of_ne_nil (l := r) (by
      rintro rfl
      cases (hpair.1 hc).2)
    refine ⟨'\n', ⟨r, y.index + 2, y.line + 1, 0⟩,
      by rw [lineBreak_eq hy, if_pos (hpair.1 hc)]; rfl, rfl, ⟨rfl, ?_, ?_, rfl, ?_⟩, ?_⟩
    · change x.index + 2 = y.index + 2 + p.index
      omega
    · change x.line + 1 = y.line + 1 + p.line
      omega
    · exact ((List.suffix_cons d r).trans (List.suffix_cons c _)).trans hwithin
    · rw [hy]
      simp
  next hc =>
    obtain ⟨hbreak, ha⟩ := Option.ite_none_right_eq_some.1 ha
    cases ha
    refine ⟨breakValue c, ⟨r, y.index + 1, y.line + 1, 0⟩,
      by rw [lineBreak_eq hy, if_neg fun hc' => hc (hpair.2 hc'), if_pos hbreak], rfl,
      ⟨rfl, ?_, ?_, rfl, (List.suffix_cons c r).trans hwithin⟩, ?_⟩
    · change x.index + 1 = y.index + 1 + p.index
      omega
    · change x.line + 1 = y.line + 1 + p.line
      omega
    · rw [hy]
      simp

theorem atDocumentMark_eq (h : Along p x y) {mark : Char} (hmark : Json.isBlank mark = false) :
    x.atDocumentMark mark = y.atDocumentMark mark := by
  have hne {c : Char} (hc : c ∈ p.trail) : c ≠ mark := by
    rintro rfl
    cases hmark.symm.trans (p.blank c hc)
  unfold Cursor.atDocumentMark
  rw [h.rest, h.column]
  rcases htrail : p.trail with _ | ⟨d, ds⟩
  · rw [List.append_nil]
  · have hd : d ≠ mark := hne (htrail ▸ List.mem_cons_self)
    match y.rest with
    | a :: b :: c :: r =>
      simp only [List.cons_append]
      rw [← htrail, p.isGap_append]
    | [] | [_] | [_, _] => rcases ds with _ | ⟨e, _ | ⟨f, ds⟩⟩ <;> simp [hd]

theorem follows_atDocumentMark (h : Along p x y) {Q : α → Cursor → β → Cursor → Prop}
    {F : Bool → Scan α} {G : Bool → Scan β} (hnext : ∀ b, Follows (F b) (G b) x y Q) :
    Follows (Scan.atDocumentMark >>= F) (Scan.atDocumentMark >>= G) x y Q := by
  intro a x' ha
  have hrun : F (x.atDocumentMark '-' || x.atDocumentMark '.') x = some (a, x') := ha
  rw [atDocumentMark_eq h (by decide), atDocumentMark_eq h (by decide)] at hrun
  exact hnext _ a x' hrun

end Cursors

end JsonTypes.Yaml
