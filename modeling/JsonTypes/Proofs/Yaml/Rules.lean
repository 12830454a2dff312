import JsonTypes.Proofs.Yaml.Padding

/-!
# Rules for scans of padded texts

What a scan of a padded text does follows from what its parts do. A look at the next character may
find white space behind the end of the text, which a scan of the text alone does not see.
-/

namespace JsonTypes.Yaml

/-- A scan that does the same in a padded text, and never leaves the text. -/
def Closed {α : Type} (p : Padding) (f : Scan α) : Prop :=
  ∀ x y, Along p x y → Follows f f x y (Keeps p y.rest.length)

section Rules

variable {p : Padding} {x y : Cursor} {α β : Type} {m n : Nat}

theorem Keeps.mono {a b : α} (h : Keeps p m a x b y) (hmn : m ≤ n) : Keeps p n a x b y :=
  ⟨h.1, h.2.1, Nat.le_trans h.2.2 hmn⟩

theorem Nears.mono {a b : α} (h : Nears p m a x b y) (hmn : m ≤ n) : Nears p n a x b y :=
  h.imp_left (·.mono hmn)

theorem follows_pure (h : Along p x y) (a : α) (hn : y.rest.length ≤ n) :
    Follows (pure a) (pure a) x y (Keeps p n) :=
  .pure ⟨rfl, h, hn⟩

/-- The rule for a scan that keeps to the text, followed by another. -/
theorem Follows.then {f g : Scan α} {F G : α → Scan β} {Q : β → Cursor → β → Cursor → Prop}
    (h : Follows f g x y (Keeps p m))
    (hnext : ∀ a x' y', Along p x' y' → y'.rest.length ≤ m → Follows (F a) (G a) x' y' Q) :
    Follows (f >>= F) (g >>= G) x y Q := by
  refine h.bind fun a x' b y' hkeeps => ?_
  obtain ⟨rfl, halong, hle⟩ := hkeeps
  exact hnext a x' y' halong hle

/-- The rule for a scan that may leave the text, followed by another. -/
theorem Follows.near {f g : Scan α} {F G : α → Scan β} {Q : β → Cursor → β → Cursor → Prop}
    (h : Follows f g x y (Nears p m))
    (hnext : ∀ a x' y', Along p x' y' → y'.rest.length ≤ m → Follows (F a) (G a) x' y' Q)
    (hpast : ∀ a b x' y', Past p x' y' → Follows (F a) (G b) x' y' Q) :
    Follows (f >>= F) (g >>= G) x y Q := by
  refine h.bind fun a x' b y' hnears => ?_
  obtain ⟨rfl, halong, hle⟩ | h' := hnears
  · exact hnext a x' y' halong hle
  · exact hpast a b x' y' h'

namespace Closed

protected theorem pure (a : α) : Closed p (pure a) := fun _ _ h => follows_pure h a le_rfl

theorem failure : Closed p (failure : Scan α) := fun _ _ _ => .of_fails rfl

protected theorem bind {f : Scan α} {F : α → Scan β} (h : Closed p f)
    (hnext : ∀ a, Closed p (F a)) : Closed p (f >>= F) := fun x y hxy =>
  (h x y hxy).then fun a _ _ halong hle =>
    (hnext a _ _ halong).mono fun _ _ _ _ hkeeps => hkeeps.mono hle

theorem ite {q : Prop} [Decidable q] {f g : Scan α} (hf : Closed p f) (hg : Closed p g) :
    Closed p (if q then f else g) := by
  split
  · exact hf
  · exact hg

theorem guarded (q : Prop) [Decidable q] : Closed p (guard q : Scan Unit) := ite (.pure ()) failure

theorem takeWhile {fits : Char → Bool}
    (hfits : ∀ c, Json.isBlank c = true → (fits c && !isBreak c) = false) :
    Closed p (Scan.takeWhile fits) := fun _ _ h => follows_takeWhile h hfits

theorem peek {F : Option Char → Scan α} (hnext : ∀ o, Closed p (F o))
    (hend : ∀ o : Option Char, (∀ c, o = some c → Json.isBlank c = true) → F o = F none) :
    Closed p (Scan.peek >>= F) := fun x y h => by
  refine follows_peek (.inl h) (fun _ c _ _ => hnext (some c) x y h) fun _ o ho => ?_
  rw [hend o ho]
  exact hnext none x y h

theorem rest {F : List Char → Scan α} (hnext : ∀ cs, Closed p (F cs))
    (hend : ∀ cs, F (cs ++ p.trail) = F cs) : Closed p (Scan.rest >>= F) := fun x y h => by
  refine follows_rest ?_
  rw [h.rest, hend]
  exact hnext y.rest x y h

end Closed

theorem ne_of_isBlank {c d : Char} (hc : Json.isBlank c = true) (hd : Json.isBlank d = false) :
    c ≠ d := by
  rintro rfl
  cases hd.symm.trans hc

/-- A test for a character that is no white space. -/
theorem follows_test (h : Near p x y) {c : Char} (hc : Json.isBlank c = false)
    {f f' g g' : Scan α} {Q : α → Cursor → α → Cursor → Prop}
    (hthen : Along p x y → ∀ r, y.rest = c :: r → Follows f g x y Q)
    (helse : y.rest.head? ≠ some c → Follows f' g' x y Q) :
    Follows (Scan.peek >>= fun o => if o = some c then f else f')
      (Scan.peek >>= fun o => if o = some c then g else g') x y Q := by
  refine follows_peek h (fun h d r hy => .ite Iff.rfl (fun hd => ?_) fun hd => ?_) fun hy o ho => ?_
  · exact hthen h r (Option.some.inj hd ▸ hy)
  · exact helse (by rwa [hy])
  · rw [if_neg, if_neg]
    · exact helse (by simp [hy])
    · simp
    · exact fun h => ne_of_isBlank (ho c h) hc rfl

/-- A look at what the next character is like. -/
theorem follows_any (h : Near p x y) {is : Char → Bool} {F G : Bool → Scan α}
    {Q : α → Cursor → α → Cursor → Prop}
    (hmore : Along p x y → ∀ c r, y.rest = c :: r → Follows (F (is c)) (G (is c)) x y Q)
    (hend : y.rest = [] → ∀ b, Follows (F b) (G false) x y Q) :
    Follows ((do return (← Scan.peek).any is) >>= F) ((do return (← Scan.peek).any is) >>= G) x y
      Q :=
  follows_peek (F := fun o => F (o.any is)) (G := fun o => G (o.any is)) h hmore
    fun hy o _ => hend hy (o.any is)

theorem follows_expect (h : Along p x y) {c : Char} (hc : Json.isBlank c = false) :
    Follows (Scan.expect c) (Scan.expect c) x y (Keeps p (y.rest.length - 1)) := by
  refine follows_peek (.inl h) (fun _ d r hy => ?_) fun _ o ho => ?_
  · exact .guard_bind id fun _ => follows_skip h (by simp [hy])
  · exact .guard_bind (fun hoc => absurd rfl (ne_of_isBlank (ho c hoc) hc)) fun hoc =>
      absurd rfl (ne_of_isBlank (ho c hoc) hc)

theorem Closed.expect {c : Char} (hc : Json.isBlank c = false) : Closed p (Scan.expect c) :=
  fun _ _ h => (follows_expect h hc).mono fun _ _ _ _ hkeeps => hkeeps.mono (Nat.sub_le _ _)

theorem isGap_single {c : Char} (h : isBlank c = true) : isGap [c] = true := by
  simp [isGap, h]

/-! ## Progress -/

/-- A scan that takes something here. -/
def Takes (f : Scan α) (x : Cursor) : Prop :=
  ∀ a x', f x = some (a, x') → x'.rest.length < x.rest.length

theorem bind_of_run {f : Scan α} {F : α → Scan β} {a : α} {x' : Cursor} (h : f x = some (a, x')) :
    (f >>= F) x = F a x' := by
  change (f x).bind _ = _
  rw [h]
  rfl

theorem run_takeWhile {fits : Char → Bool}
    (h : (x.rest.takeWhile fun c => fits c && !isBreak c) = []) :
    Scan.takeWhile fits x = some ([], x) := by
  unfold Scan.takeWhile
  rw [h]
  rfl

namespace Takes

variable {f g : Scan α}

protected theorem bind {F : α → Scan β} (h : Takes f x) (hnext : ∀ a, Advances (F a)) :
    Takes (f >>= F) x := by
  intro b z hb
  obtain ⟨⟨a, x'⟩, ha, hb⟩ := Option.bind_eq_some_iff.1 hb
  exact Nat.lt_of_le_of_lt (hnext a x' b z hb).rest.length_le (h a x' ha)

theorem ite {q : Prop} [Decidable q] (hpos : q → Takes f x) (hneg : ¬ q → Takes g x) :
    Takes (if q then f else g) x := by
  split
  next hq => exact hpos hq
  next hq => exact hneg hq

theorem guard_bind {q : Prop} [Decidable q] {F : Unit → Scan α} (h : Takes (F ()) x) :
    Takes (guard q >>= F) x := by
  by_cases hq : q
  · rw [guard_pos hq]
    exact h
  · rw [guard_neg hq]
    exact nofun

theorem skip (hx : x.rest ≠ []) {n : Nat} (hn : 0 < n) : Takes (Scan.skip n) x := by
  have hpos := List.length_pos_iff.2 hx
  rintro _ _ ⟨⟩
  simp only [List.length_drop]
  omega

theorem run_bind {F : α → Scan β} {a : α} (hf : f x = some (a, x)) (h : Takes (F a) x) :
    Takes (f >>= F) x := by
  intro b z hb
  exact h b z ((bind_of_run hf).symm.trans hb)

theorem peek {F : Option Char → Scan α} (h : Takes (F x.rest.head?) x) :
    Takes (Scan.peek >>= F) x := h

theorem rest {F : List Char → Scan α} (h : Takes (F x.rest) x) : Takes (Scan.rest >>= F) x := h

theorem atDocumentMark {F : Bool → Scan α}
    (h : Takes (F (x.atDocumentMark '-' || x.atDocumentMark '.')) x) :
    Takes (Scan.atDocumentMark >>= F) x := h

theorem column {F : Nat → Scan α} (h : Takes (F x.column) x) : Takes (Scan.column >>= F) x := h

theorem takeWhile {fits : Char → Bool} {c : Char} {r : List Char} (hx : x.rest = c :: r)
    (hc : (fits c && !isBreak c) = true) : Takes (Scan.takeWhile fits) x := by
  rintro _ _ ⟨⟩
  simp only [hx, List.takeWhile_cons, hc, if_true, List.length_cons, List.length_drop]
  omega

theorem lineBreak : Takes Scan.lineBreak x := fun _ _ h => lineBreak_lt h

end Takes

/-- A scan that succeeds here and takes nothing. -/
def Stays (f : Scan α) (x : Cursor) : Prop := ∃ a, f x = some (a, x)

namespace Stays

variable {f : Scan α}

protected theorem pure (a : α) : Stays (pure a) x := ⟨a, rfl⟩

protected theorem bind {F : α → Scan β} (h : Stays f x) (hnext : ∀ a, Stays (F a) x) :
    Stays (f >>= F) x := by
  obtain ⟨a, ha⟩ := h
  obtain ⟨b, hb⟩ := hnext a
  exact ⟨b, (bind_of_run ha).trans hb⟩

theorem rest {F : List Char → Scan α} (h : Stays (F x.rest) x) : Stays (Scan.rest >>= F) x := h

theorem column {F : Nat → Scan α} (h : Stays (F x.column) x) : Stays (Scan.column >>= F) x := h

end Stays

theorem Near.nears (h : Near p x y) (hn : y.rest.length ≤ n) (a : α) : Nears p n a x a y :=
  h.imp_left fun h => ⟨rfl, h, hn⟩

/-- Behind the text it is enough that the scan of the text alone ends well. -/
theorem Past.follows {f g : Scan α} (h : Past p x y) (hf : Advances f) (hg : Stays g y) :
    Follows f g x y (Nears p n) := by
  obtain ⟨b, hb⟩ := hg
  exact fun a x' ha => ⟨b, y, hb, .inr (h.forward (hf x a x' ha))⟩

/-- So it is at the end of the text, for a scan that takes white space. -/
theorem Near.follows_takes {f g : Scan α} (h : Near p x y) (hy : y.rest = []) (hf : Advances f)
    (htakes : Takes f x) (hg : Stays g y) : Follows f g x y (Nears p n) := by
  obtain ⟨b, hb⟩ := hg
  exact fun a x' ha => ⟨b, y, hb, .inr (h.past hy (hf x a x' ha) (htakes a x' ha))⟩

/-! ## The ends of lines -/

theorem nears_gap (h : Near p x y) :
    Follows (Scan.rest >>= fun cs => guard (isGap cs)) (Scan.rest >>= fun cs => guard (isGap cs))
      x y (Nears p y.rest.length) := by
  refine follows_rest (.guarded fun hgap => ⟨h.isGap_eq ▸ hgap, ?_⟩)
  exact h.imp_left fun h => ⟨rfl, h, le_rfl⟩

/-- What `Scan.restOfLine` does behind the blanks. -/
def comment : Scan Unit := do
  if (← Scan.peek) = some '#' then
    let _ ← Scan.takeWhile fun _ => true
  else
    guard (isGap (← Scan.rest))

theorem restOfLine_eq : Scan.restOfLine = Scan.takeWhile isBlank >>= fun _ => comment := rfl

theorem nears_comment (h : Near p x y) : Follows comment comment x y (Nears p y.rest.length) := by
  refine follows_test h (by decide) (fun h' _ _ => ?_) fun _ => nears_gap h
  refine (nears_takeWhile (.inl h') _).near (fun _ _ _ h'' hle => ?_) fun _ _ _ _ h'' => ?_
  · exact .pure (.inl ⟨rfl, h'', hle⟩)
  · exact .pure (.inr h'')

theorem nears_restOfLine (h : Near p x y) :
    Follows Scan.restOfLine Scan.restOfLine x y (Nears p y.rest.length) := by
  rw [restOfLine_eq]
  refine (nears_takeWhile h _).near (fun _ x' y' h' hle => ?_) fun _ _ x' y' h' => ?_
  · exact (nears_comment (.inl h')).mono fun _ _ _ _ hnears => hnears.mono hle
  · exact (nears_comment (.inr h')).mono fun _ _ _ _ hnears => hnears.mono (by simp [h'.ended])

/-- Going over the line break, if there is one here. -/
theorem follows_lineEnd {α : Type} (h : Near p x y) {F G : Unit → Scan α}
    {Q : α → Cursor → α → Cursor → Prop}
    (hnext : ∀ x' y', Near p x' y' → y'.rest.length ≤ y.rest.length →
      Follows (F ()) (G ()) x' y' Q) :
    Follows (Scan.atBreak >>= fun b => if b then Scan.lineBreak >>= fun _ => F () else F ())
      (Scan.atBreak >>= fun b => if b then Scan.lineBreak >>= fun _ => G () else G ()) x y Q := by
  refine follows_any h (fun h' c r hy => .ite Iff.rfl (fun _ => ?_) fun _ => ?_) fun hy b => ?_
  · exact (follows_lineBreak h' (by simp [hy])).then fun _ x' y' h'' hle =>
      hnext x' y' (.inl h'') (by omega)
  · exact hnext x y h le_rfl
  rw [if_neg Bool.false_ne_true]
  split
  · intro a z ha
    obtain ⟨⟨c, x'⟩, hbreak, ha⟩ := Option.bind_eq_some_iff.1 ha
    have hx' := h.past hy (Advances.lineBreak x c x' hbreak) (lineBreak_lt hbreak)
    exact hnext x' y (.inr hx') le_rfl a z ha
  · exact hnext x y h le_rfl

/-! ## Scans that fail -/

theorem guard_bind_eq_some {q : Prop} [Decidable q] {F : Unit → Scan α} {r : α × Cursor} :
    (guard q >>= F) x = some r ↔ q ∧ F () x = some r := by
  by_cases hq : q
  · rw [guard_pos hq]
    exact (and_iff_right hq).symm
  · rw [guard_neg hq]
    exact ⟨nofun, fun h => absurd h.1 hq⟩

theorem guard_bind_pos {q : Prop} [Decidable q] {F : Unit → Scan α} (hq : q) :
    (guard q >>= F) x = F () x := by
  rw [guard_pos hq]
  rfl

theorem peek_bind (F : Option Char → Scan α) : (Scan.peek >>= F) x = F x.rest.head? x := rfl

theorem rest_bind (F : List Char → Scan α) : (Scan.rest >>= F) x = F x.rest x := rfl

theorem fails_then {f : Scan α} {F : α → Scan β}
    (hnext : ∀ a x', f x = some (a, x') → F a x' = none) : (f >>= F) x = none :=
  Option.bind_eq_none_iff.2 fun r hr => hnext r.1 r.2 hr

theorem fails_bind {f : Scan α} {F : α → Scan β} (h : f x = none) : (f >>= F) x = none :=
  fails_then fun _ _ ha => by cases h.symm.trans ha

theorem fails_ite {q : Prop} [Decidable q] {f g : Scan α} (hf : f x = none) (hg : g x = none) :
    (if q then f else g) x = none := by
  by_cases hq : q
  · rwa [if_pos hq]
  · rwa [if_neg hq]

theorem fails_guard {q : Prop} [Decidable q] {F : Unit → Scan α} (hnext : F () x = none) :
    (guard q >>= F) x = none :=
  Option.eq_none_iff_forall_ne_some.2 fun _ hr => by
    cases hnext.symm.trans (guard_bind_eq_some.1 hr).2

theorem fails_rest {F : List Char → Scan α} (h : F x.rest x = none) :
    (Scan.rest >>= F) x = none := h

theorem fails_peek {F : Option Char → Scan α} (h : F x.rest.head? x = none) :
    (Scan.peek >>= F) x = none := h

section Blank

variable (hx : ∀ c ∈ x.rest, Json.isBlank c = true)
include hx

theorem head?_ne_of_blank {c : Char} (hc : Json.isBlank c = false) : x.rest.head? ≠ some c :=
  fun h => ne_of_isBlank (hx c (List.mem_of_head? h)) hc rfl

theorem fails_takeWhile {fits : Char → Bool} {F : List Char → Scan α}
    (hnext : ∀ cs x', (∀ c ∈ x'.rest, Json.isBlank c = true) → F cs x' = none) :
    (Scan.takeWhile fits >>= F) x = none :=
  hnext _ _ fun c hc => hx c (List.mem_of_mem_drop hc)

theorem fails_taken {fits : Char → Bool}
    (hfits : ∀ c, Json.isBlank c = true → (fits c && !isBreak c) = false)
    {F : List Char → Scan α} (hnext : ∀ x', F [] x' = none) :
    (Scan.takeWhile fits >>= F) x = none := by
  change F (x.rest.takeWhile fun c => fits c && !isBreak c) _ = none
  rw [takeWhile_blank hx hfits]
  exact hnext _

theorem fails_expect {c : Char} (hc : Json.isBlank c = false) : Scan.expect c x = none := by
  refine fails_peek ?_
  rw [guard_neg (head?_ne_of_blank hx hc)]
  rfl

end Blank

end Rules

end JsonTypes.Yaml
