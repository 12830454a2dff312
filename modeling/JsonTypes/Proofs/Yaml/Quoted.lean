import JsonTypes.Proofs.Json.Surroundings
import JsonTypes.Proofs.Yaml.Rules
import JsonTypes.Yaml.Scalar.Quoted

/-!
# Quoted scalars in a padded text

Inside quotes the end of the text is an error, whatever white space is behind it: a scan that finds
nothing but white space finds no closing quote.
-/

namespace JsonTypes.Yaml

variable {p : Padding} {x y : Cursor}

/-! ## Gaps -/

namespace Gap

theorem Advances.loop (column : Nat) : ∀ n g, Advances (loop column n g)
  | 0, g => .pure g
  | n + 1, g => by
    refine Advances.peek.bind fun o => ?_
    rcases o with _ | c
    · exact .pure g
    refine .ite ?_ (.ite ?_ (.pure g))
    · exact Advances.column.bind fun _ => (Advances.guarded _).bind fun _ =>
        (Advances.skip 1).bind fun _ => Advances.loop column n _
    · exact Advances.lineBreak.bind fun _ => Advances.loop column n _

theorem advances_scan (column : Nat) (g : Gap) : Advances (scan column g) :=
  Advances.rest.bind fun _ => Advances.loop column _ g

/-- A gap ends before the end of the text. -/
theorem follows_loop (column n : Nat) (g : Gap) (h : Along p x y) (hne : y.rest ≠ []) :
    Follows (loop column n g) (loop column n g) x y fun a x' b y' =>
      Keeps p y.rest.length a x' b y' ∧ y'.rest ≠ [] := by
  induction n generalizing x y g with
  | zero => exact .pure ⟨⟨rfl, h, le_rfl⟩, hne⟩
  | succ n ih =>
    refine follows_peek (.inl h) (fun _ c r hy => ?_) fun hnil => absurd hnil hne
    have hnext {x' y' : Cursor} {g' : Gap} (h' : Along p x' y') (hne' : y'.rest ≠ [])
        (hle : y'.rest.length ≤ y.rest.length - 1) :
        Follows (loop column n g') (loop column n g') x' y' fun a x' b y' =>
          Keeps p y.rest.length a x' b y' ∧ y'.rest ≠ [] :=
      (ih g' h' hne').mono fun _ _ _ _ hQ => ⟨hQ.1.mono (by omega), hQ.2⟩
    refine .ite Iff.rfl (fun hc => ?_) fun _ => .ite Iff.rfl (fun hc => ?_) fun _ => ?_
    · refine follows_column ?_
      rw [h.column]
      refine .guard_bind id fun _ => (follows_skip h (by simp [hy])).runs.bind
        fun _ x' _ y' hskip => ?_
      obtain ⟨⟨-, h', hle⟩, -, hrun⟩ := hskip
      cases hrun
      refine hnext h' ?_ hle
      rw [hy]
      exact p.ne_nil_of_gap (hy ▸ h.within) (isGap_single hc)
    · refine (follows_lineBreak h hne).runs.bind fun b x' b' y' hbreak => ?_
      obtain ⟨⟨rfl, h', hle⟩, -, hrun⟩ := hbreak
      exact hnext h' (lineBreak_ne_nil h.within hrun) hle
    · exact .pure ⟨⟨rfl, h, le_rfl⟩, hne⟩

theorem follows_scan (column : Nat) (g : Gap) (h : Along p x y) (hne : y.rest ≠ []) :
    Follows (scan column g) (scan column g) x y fun a x' b y' =>
      Keeps p y.rest.length a x' b y' ∧ y'.rest ≠ [] := by
  refine follows_rest ?_
  rw [h.rest, p.takeWhile_append h.within hne fun c hc => by simpa [isGap] using hc]
  exact follows_loop column _ g h hne

/-- A gap that begins here takes something. -/
theorem scan_lt {column : Nat} {g g' : Gap} {x' : Cursor} (hgap : isGap x.rest = true)
    (hne : x.rest ≠ []) (h : scan column g x = some (g', x')) :
    x'.rest.length < x.rest.length := by
  obtain ⟨c, r, hx⟩ := List.exists_cons_of_ne_nil hne
  have hc : (isBlank c || isBreak c) = true := by simpa [isGap, hx] using hgap
  have htakes : Takes (scan column g) x := by
    refine .rest ?_
    rw [hx, List.takeWhile_cons, if_pos hc, List.length_cons]
    refine .peek ?_
    rw [hx]
    refine .ite (fun _ => ?_) fun hblank => ?_
    · exact .column (.guard_bind ((Takes.skip hne Nat.one_pos).bind fun _ => Advances.loop _ _ _))
    · rw [if_pos (by simpa [hblank] using hc)]
      exact Takes.lineBreak.bind fun _ => Advances.loop _ _ _
  exact htakes _ _ h

end Gap

/-! ## Scans with something to come -/

/-- A scan, where it leaves something that is no white space. -/
def sighted {α : Type} (f : Scan α) : Scan α := do
  let a ← f
  guard ((← Scan.rest).any fun c => !Json.isBlank c)
  return a

section Sighted

variable {α β : Type} {f g : Scan α}

theorem sighted_eq_some {a : α} {x' : Cursor} : sighted f x = some (a, x') ↔
    f x = some (a, x') ∧ ∃ c ∈ x'.rest, Json.isBlank c = false := by
  constructor
  · intro h
    obtain ⟨⟨b, x''⟩, hb, h⟩ := Option.bind_eq_some_iff.1 h
    obtain ⟨hvisible, h⟩ := guard_bind_eq_some (F := fun _ => pure b).1 h
    cases h
    exact ⟨hb, by simpa using hvisible⟩
  · rintro ⟨ha, hvisible⟩
    exact Option.bind_eq_some_iff.2
      ⟨(a, x'), ha, (guard_bind_eq_some (F := fun _ => pure a)).2 ⟨by simpa using hvisible, rfl⟩⟩

theorem sighted_fails (h : Advances f) (hx : ∀ c ∈ x.rest, Json.isBlank c = true) :
    sighted f x = none := by
  refine Option.eq_none_iff_forall_ne_some.2 fun r hr => ?_
  obtain ⟨ha, c, hc, hvisible⟩ := sighted_eq_some.1 hr
  cases hvisible.symm.trans (hx c ((h x _ _ ha).rest.subset hc))

theorem sighted_bind (F : α → Scan β) : sighted (f >>= F) = f >>= fun a => sighted (F a) :=
  bind_assoc _ _ _

theorem sighted_ite {q : Prop} [Decidable q] :
    sighted (if q then f else g) = if q then sighted f else sighted g := by
  split <;> rfl

theorem Follows.sighted {Q : α → Cursor → α → Cursor → Prop} (h : Follows f g x y Q) :
    Follows (sighted f) g x y Q := fun a x' ha => h a x' (sighted_eq_some.1 ha).1

/-- What goes on only with something to come may as well be told so. -/
theorem bind_eq_sighted {F : α → Scan β}
    (hF : ∀ a x', (∀ c ∈ x'.rest, Json.isBlank c = true) → F a x' = none) :
    f >>= F = sighted f >>= F := by
  refine funext fun x => Option.ext fun r => ?_
  refine Option.bind_eq_some_iff.trans (Iff.trans ?_ Option.bind_eq_some_iff.symm)
  refine exists_congr fun ⟨a, x'⟩ => and_congr_left fun hr => Iff.symm ?_
  refine sighted_eq_some.trans (and_iff_left_of_imp fun _ => ?_)
  by_cases hvisible : ∃ c ∈ x'.rest, Json.isBlank c = false
  · exact hvisible
  · have hblank : ∀ c ∈ x'.rest, Json.isBlank c = true := fun c hc =>
      Bool.of_not_eq_false fun h => hvisible ⟨c, hc, h⟩
    cases (hF a x' hblank).symm.trans hr

end Sighted

namespace Quoted

/-! ## Escapes -/

theorem numberInBase?_eq_none {base : Nat} {cs : List Char} {c : Char} (hc : c ∈ cs)
    (hdigit : Text.hexDigit? c = none) : Text.numberInBase? base cs = none := by
  unfold Text.numberInBase?
  generalize 0 = n
  induction cs generalizing n with
  | nil => cases hc
  | cons d ds ih =>
    rw [List.foldlM_cons]
    rcases List.mem_cons.1 hc with rfl | hc
    · rw [hdigit]
      rfl
    · exact Option.bind_eq_none_iff.2 fun n _ => ih hc n

theorem codePoint?_of_isBlank {cs : List Char} {c : Char} (hc : c ∈ cs)
    (hblank : Json.isBlank c = true) : codePoint? cs = none := by
  have hdigit := Json.hexDigit?_of_isBlank (Json.isBlank_toText hblank)
  rw [codePoint?, numberInBase?_eq_none hc hdigit]
  rfl

theorem advances_escape : Advances escape := by
  refine Advances.peek.bind fun o => ?_
  rcases o with _ | c
  · exact .failure
  dsimp only
  rcases shortEscape? c with _ | d
  · rcases digitCount? c with _ | n
    · exact .failure
    · refine (Advances.skip 1).bind fun _ => Advances.rest.bind fun cs =>
        (Advances.guarded _).bind fun _ => ?_
      rcases codePoint? (cs.take n) with _ | d
      · exact .failure
      · exact (Advances.skip n).bind fun _ => .pure d
  · exact (Advances.skip 1).bind fun _ => .pure d

/-- The digits of an escape are in the text. -/
theorem take_digits {r : List Char} {n : Nat} {c : Char} (hr : ((r ++ p.trail).take n).length = n)
    (hc : codePoint? ((r ++ p.trail).take n) = some c) : n ≤ r.length := by
  refine Nat.le_of_not_lt fun hlt => ?_
  rw [List.take_append, List.take_of_length_le (Nat.le_of_lt hlt)] at hr hc
  rcases htail : p.trail.take (n - r.length) with _ | ⟨d, ds⟩
  · rw [htail, List.append_nil] at hr
    omega
  · have hd : d ∈ p.trail.take (n - r.length) := htail ▸ List.mem_cons_self
    have hblank := p.blank d (List.mem_of_mem_take hd)
    cases (codePoint?_of_isBlank (List.mem_append_right r hd) hblank).symm.trans hc

theorem follows_escape (h : Along p x y) (hne : y.rest ≠ []) :
    Follows escape escape x y (Keeps p y.rest.length) := by
  refine follows_peek (.inl h) (fun _ c r hy => ?_) fun hnil => absurd hnil hne
  dsimp only
  rcases shortEscape? c with _ | d
  · rcases digitCount? c with _ | n
    · exact .of_fails rfl
    refine (follows_skip h (by simp [hy])).then fun _ x' y' h' hle => follows_rest ?_
    rw [h'.rest]
    by_cases hn : n ≤ y'.rest.length
    · rw [List.take_append_of_le_length hn]
      refine .guard_bind id fun _ => ?_
      rcases codePoint? (y'.rest.take n) with _ | d
      · exact .of_fails rfl
      · exact (follows_skip h' hn).then fun _ _ _ h'' hle' => follows_pure h'' d (by omega)
    · refine .of_fails (Option.eq_none_iff_forall_ne_some.2 fun _ hr => ?_)
      obtain ⟨hlength, hr⟩ := guard_bind_eq_some.1 hr
      rcases hcode : codePoint? ((y'.rest ++ p.trail).take n) with _ | d
      · rw [hcode] at hr
        cases hr
      · exact hn (take_digits hlength hcode)
  · exact (follows_skip h (by simp [hy])).then fun _ x' y' h' hle => follows_pure h' _ (by omega)

/-! ## Words -/

theorem advances_singleWord : ∀ n taken, Advances (singleWord n taken)
  | 0, _ => .pure _
  | n + 1, taken => by
    refine Advances.rest.bind fun cs => ?_
    split
    · exact (Advances.skip 2).bind fun _ => advances_singleWord n _
    · exact .pure _
    · exact .ite (.pure _) ((Advances.skip 1).bind fun _ => advances_singleWord n _)
    · exact .pure _

theorem advances_doubleWord : ∀ n taken, Advances (doubleWord n taken)
  | 0, _ => .pure _
  | n + 1, taken => by
    refine Advances.rest.bind fun cs => ?_
    split
    · exact .pure _
    · exact .pure _
    · refine (Advances.skip 1).bind fun _ => .ite ?_ ?_
      · exact Advances.lineBreak.bind fun _ => .pure _
      · exact advances_escape.bind fun _ => advances_doubleWord n _
    · exact .ite (.pure _) ((Advances.skip 1).bind fun _ => advances_doubleWord n _)

theorem singleWord_succ (n : Nat) (taken : List Char) : singleWord (n + 1) taken = (do
    let cs ← Scan.rest
    if ['\'', '\''].isPrefixOf cs then Scan.skip 2; singleWord n ('\'' :: taken)
    else if isGap cs ∨ cs.head? = some '\'' then pure (taken.reverse, .outside)
    else Scan.skip 1; singleWord n (cs.head?.toList ++ taken)) := by
  change (Scan.rest >>= _) = _
  congr 1
  funext cs
  split
  · rfl
  next hno =>
    rw [if_neg, if_pos (.inr rfl)]
    rw [List.isPrefixOf_iff_prefix]
    rintro ⟨cs', hcs⟩
    cases hcs
    exact hno _ rfl
  next c r hno hno' =>
    have hc : c ≠ '\'' := hno'
    have hpair : ¬ ['\'', '\''].isPrefixOf (c :: r) := by simp [hc.symm]
    rw [if_neg hpair]
    simp [isGap, hc]
  · rfl

theorem doubleWord_succ (n : Nat) (taken : List Char) : doubleWord (n + 1) taken = (do
    let cs ← Scan.rest
    if isGap cs ∨ cs.head? = some '"' then pure (taken.reverse, .outside)
    else
      Scan.skip 1
      if cs.head? = some '\\' then
        if cs.tail.head?.any isBreak then
          let _ ← Scan.lineBreak
          pure (taken.reverse, .escapedBreak)
        else doubleWord n ((← escape) :: taken)
      else doubleWord n (cs.head?.toList ++ taken)) := by
  change (Scan.rest >>= _) = _
  congr 1
  funext cs
  split
  · rfl
  · rfl
  · rfl
  next c r hno hno' =>
    have hc : c ≠ '"' := hno
    have hc' : c ≠ '\\' := hno'
    simp [isGap, hc, hc']

/-- A scan of a word in a padded text, of at most so many characters, and the same in the text. It
ends where a gap or the closing quote is, or has taken something. -/
structure Words (p : Padding) (quote : Char) (n m : Nat) (long short : Scan (List Char × WordEnd)) :
    Prop where
  advances : Advances long
  follows : ∀ x y, Along p x y → x.rest.length < n → y.rest.length < m →
    Follows (sighted long) short x y (Keeps p y.rest.length)
  stops : ∀ y a y', short y = some (a, y') →
    y'.rest.length < y.rest.length ∨ isGap y'.rest ∨ y'.rest.head? = some quote

theorem follows_singleWord {n m : Nat} (taken : List Char) (h : Along p x y)
    (hn : x.rest.length < n) (hm : y.rest.length < m) :
    Follows (singleWord n taken) (singleWord m taken) x y (Keeps p y.rest.length) := by
  induction n generalizing m x y taken with
  | zero => cases hn
  | succ n ih =>
    obtain ⟨m, rfl⟩ : ∃ k, m = k + 1 := ⟨m - 1, by omega⟩
    have hlength := h.length
    have hpair : ['\'', '\''].isPrefixOf x.rest ↔ ['\'', '\''].isPrefixOf y.rest := by
      rw [List.isPrefixOf_iff_prefix, List.isPrefixOf_iff_prefix, h.rest,
        p.prefix_append_iff (by simp [Json.isBlank])]
    have hrec {x' y' : Cursor} (taken : List Char) (h' : Along p x' y')
        (hlt : y'.rest.length < y.rest.length) :
        Follows (singleWord n taken) (singleWord m taken) x' y' (Keeps p y.rest.length) := by
      have hlength' := h'.length
      exact (ih taken h' (by omega) (by omega)).mono fun _ _ _ _ hkeeps => hkeeps.mono (by omega)
    rw [singleWord_succ, singleWord_succ]
    refine follows_rest (.ite hpair (fun hword => ?_) fun _ => .ite ?_ (fun _ => ?_) fun hend => ?_)
    · rw [hpair, List.isPrefixOf_iff_prefix] at hword
      have hle : 2 ≤ y.rest.length := hword.length_le
      exact (follows_skip h hle).then fun _ _ _ h' hle' => hrec _ h' (by omega)
    · rw [Near.isGap_eq (.inl h), Near.head?_eq_some_iff (.inl h) (by decide)]
    · exact follows_pure h _ le_rfl
    · have hne : y.rest ≠ [] := fun hy => hend (.inl (isGap_of_blank (h.blank hy)))
      have hpos := List.length_pos_iff.2 hne
      rw [h.head?_eq hne]
      exact (follows_skip h hpos).then fun _ _ _ h' hle' => hrec _ h' (by omega)

theorem follows_doubleWord {n m : Nat} (taken : List Char) (h : Along p x y)
    (hn : x.rest.length < n) (hm : y.rest.length < m) :
    Follows (sighted (doubleWord n taken)) (doubleWord m taken) x y (Keeps p y.rest.length) := by
  -- A backslash at the end of the text may escape a blank behind it. No quote closes the scalar
  -- there, so only a scan that still sees the text is followed.
  induction n generalizing m x y taken with
  | zero => cases hn
  | succ n ih =>
    obtain ⟨m, rfl⟩ : ∃ k, m = k + 1 := ⟨m - 1, by omega⟩
    have hlength := h.length
    have hrec {x' y' : Cursor} (taken : List Char) (h' : Along p x' y')
        (hlt : y'.rest.length < y.rest.length) :
        Follows (sighted (doubleWord n taken)) (doubleWord m taken) x' y'
          (Keeps p y.rest.length) := by
      have hlength' := h'.length
      exact (ih taken h' (by omega) (by omega)).mono fun _ _ _ _ hkeeps => hkeeps.mono (by omega)
    by_cases hne : y.rest = []
    · exact .of_fails (sighted_fails (advances_doubleWord _ _) (h.blank hne))
    have hpos := List.length_pos_iff.2 hne
    rw [doubleWord_succ, doubleWord_succ, sighted_bind]
    refine follows_rest ?_
    rw [sighted_ite]
    refine .ite ?_ (fun _ => (follows_pure h _ le_rfl).sighted) fun _ => ?_
    · rw [Near.isGap_eq (.inl h), Near.head?_eq_some_iff (.inl h) (by decide)]
    rw [sighted_bind, h.head?_eq hne]
    refine (follows_skip h hpos).runs.bind fun _ x' _ y' hskip => ?_
    obtain ⟨⟨-, h', hle⟩, hx', hy'⟩ := hskip
    rw [sighted_ite]
    refine .ite Iff.rfl (fun _ => ?_) fun _ => hrec _ h' (by omega)
    by_cases hne' : y'.rest = []
    · refine .of_fails (sighted_fails (.ite ?_ ?_) (h'.blank hne'))
      · exact Advances.lineBreak.bind fun _ => .pure _
      · exact advances_escape.bind fun _ => advances_doubleWord n _
    have hnext : x.rest.tail.head? = y.rest.tail.head? := by
      have hhead := h'.head?_eq hne'
      cases hx'
      cases hy'
      rwa [← List.drop_one, ← List.drop_one]
    rw [sighted_ite, hnext]
    refine .ite Iff.rfl (fun _ => ?_) fun _ => ?_
    · rw [sighted_bind]
      exact (follows_lineBreak h' hne').then fun _ _ _ h'' hle' =>
        (follows_pure h'' _ (by omega)).sighted
    · rw [sighted_bind]
      exact (follows_escape h' hne').then fun _ _ _ h'' hle' => hrec _ h'' (by omega)

theorem stops_singleWord {n : Nat} {taken : List Char} {a : List Char × WordEnd} {y' : Cursor}
    (h : singleWord (n + 1) taken y = some (a, y')) :
    y'.rest.length < y.rest.length ∨ isGap y'.rest ∨ y'.rest.head? = some '\'' := by
  rw [singleWord_succ] at h
  by_cases hpair : ['\'', '\''].isPrefixOf y.rest
  · have hne : y.rest ≠ [] := fun hy => by simp [hy] at hpair
    refine .inl (Takes.rest (.ite (fun _ => ?_) fun h => absurd hpair h) a y' h)
    exact (Takes.skip hne Nat.two_pos).bind fun _ => advances_singleWord n _
  by_cases hend : isGap y.rest ∨ y.rest.head? = some '\''
  · change (ite _ _ (ite _ _ _) : Scan _) y = _ at h
    rw [if_neg hpair, if_pos hend] at h
    cases h
    exact .inr hend
  · have hne : y.rest ≠ [] := fun hy => hend (.inl (by rw [hy]; rfl))
    refine .inl (Takes.rest (.ite (fun h => absurd h hpair) fun _ =>
      .ite (fun h => absurd h hend) fun _ => ?_) a y' h)
    exact (Takes.skip hne Nat.one_pos).bind fun _ => advances_singleWord n _

theorem stops_doubleWord {n : Nat} {taken : List Char} {a : List Char × WordEnd} {y' : Cursor}
    (h : doubleWord (n + 1) taken y = some (a, y')) :
    y'.rest.length < y.rest.length ∨ isGap y'.rest ∨ y'.rest.head? = some '"' := by
  rw [doubleWord_succ] at h
  by_cases hend : isGap y.rest ∨ y.rest.head? = some '"'
  · change (ite _ _ _ : Scan _) y = _ at h
    rw [if_pos hend] at h
    cases h
    exact .inr hend
  · have hne : y.rest ≠ [] := fun hy => hend (.inl (by rw [hy]; rfl))
    refine .inl (Takes.rest (.ite (fun h => absurd h hend) fun _ => ?_) a y' h)
    refine (Takes.skip hne Nat.one_pos).bind fun _ => .ite (.ite ?_ ?_) (advances_doubleWord n _)
    · exact Advances.lineBreak.bind fun _ => .pure _
    · exact advances_escape.bind fun _ => advances_doubleWord n _

theorem words_singleWord (n m : Nat) :
    Words p '\'' n (m + 1) (singleWord n []) (singleWord (m + 1) []) where
  advances := advances_singleWord n []
  follows _ _ h hn hm := (follows_singleWord [] h hn hm).sighted
  stops _ _ _ := stops_singleWord

theorem words_doubleWord (n m : Nat) :
    Words p '"' n (m + 1) (doubleWord n []) (doubleWord (m + 1) []) where
  advances := advances_doubleWord n []
  follows _ _ := follows_doubleWord []
  stops _ _ _ := stops_doubleWord

/-! ## Scalars -/

/-- What follows on a word. -/
def afterWord (quote : Char) (next : List Char → Scan (List Char)) (taken : List Char)
    (w : List Char × WordEnd) : Scan (List Char) := do
  if (← Scan.peek) = some quote then
    Scan.skip 1
    pure (taken ++ w.1)
  else
    let g ← Gap.scan 0 (match w.2 with
      | .outside => .none
      | .escapedBreak => .escapedBreak)
    next (taken ++ w.1 ++ g.text)

theorem body_succ (quote : Char) (word : Scan (List Char × WordEnd)) (n : Nat)
    (taken : List Char) : body quote word (n + 1) taken = (do
      guard (!(← Scan.atDocumentMark))
      guard (!(← Scan.rest).isEmpty)
      word >>= afterWord quote (body quote word n) taken) := rfl

theorem afterWord_blank {quote : Char} (hquote : Json.isBlank quote = false)
    {next : List Char → Scan (List Char)} (taken : List Char) (w : List Char × WordEnd)
    (hnext : ∀ taken x, (∀ c ∈ x.rest, Json.isBlank c = true) → next taken x = none)
    (hx : ∀ c ∈ x.rest, Json.isBlank c = true) : afterWord quote next taken w x = none := by
  refine fails_peek ?_
  rw [if_neg (head?_ne_of_blank hx hquote)]
  exact fails_then fun g x' hg => hnext _ x' fun c hc =>
    hx c ((Gap.advances_scan 0 _ x g x' hg).rest.subset hc)

theorem body_blank {quote : Char} (hquote : Json.isBlank quote = false)
    {word : Scan (List Char × WordEnd)} (hword : Advances word) (n : Nat) (taken : List Char)
    (hx : ∀ c ∈ x.rest, Json.isBlank c = true) : body quote word n taken x = none := by
  induction n generalizing x taken with
  | zero => rfl
  | succ n ih =>
    refine fails_then fun mark _ hmark => ?_
    cases hmark
    refine fails_guard (fails_rest (fails_guard (fails_then fun w x' hw => ?_)))
    exact afterWord_blank hquote taken w (fun _ _ => ih _) fun c hc =>
      hx c ((hword x w x' hw).rest.subset hc)

theorem follows_body {quote : Char} (hquote : Json.isBlank quote = false) {N M : Nat}
    {long short : Scan (List Char × WordEnd)} (hwords : Words p quote N M long short)
    {n m : Nat} (taken : List Char) (h : Along p x y) (hn : x.rest.length < n)
    (hm : y.rest.length < m) (hN : n ≤ N) (hM : m ≤ M) :
    Follows (body quote long n taken) (body quote short m taken) x y (Keeps p y.rest.length) := by
  induction n generalizing m x y taken with
  | zero => cases hn
  | succ n ih =>
    obtain ⟨m, rfl⟩ : ∃ k, m = k + 1 := ⟨m - 1, by omega⟩
    have hlength := h.length
    by_cases hne : y.rest = []
    · exact .of_fails (body_blank hquote hwords.advances _ taken (h.blank hne))
    -- Once the text has ended no quote closes the scalar.
    rw [body_succ, body_succ, bind_eq_sighted (f := long) fun w _ =>
      afterWord_blank hquote taken w fun _ _ => body_blank hquote hwords.advances n _]
    refine follows_atDocumentMark h fun mark => .guard_bind id fun _ => ?_
    refine follows_rest (.guard_bind (fun _ => by simpa using hne) fun _ => ?_)
    refine (hwords.follows x y h (by omega) (by omega)).runs.bind fun w x' _ y' hword => ?_
    obtain ⟨⟨rfl, h', hle⟩, -, hrun⟩ := hword
    by_cases hne' : y'.rest = []
    · exact .of_fails (afterWord_blank hquote taken w
        (fun _ _ => body_blank hquote hwords.advances n _) (h'.blank hne'))
    refine follows_test (.inl h') hquote (fun _ r hy' => ?_) fun hhead => ?_
    · exact (follows_skip h' (by simp [hy'])).then fun _ _ _ h'' hle' =>
        follows_pure h'' _ (by omega)
    refine (Gap.follows_scan 0 _ h' hne').runs.bind fun g x'' g' y'' hgap => ?_
    obtain ⟨⟨⟨rfl, h'', hle'⟩, -⟩, -, hrun'⟩ := hgap
    have hlt : y''.rest.length < y.rest.length := by
      rcases hwords.stops y w y' hrun with hlt | hgap | hquote
      · omega
      · exact Nat.lt_of_lt_of_le (Gap.scan_lt hgap hne' hrun') hle
      · exact absurd hquote hhead
    have hlength'' := h''.length
    exact (ih _ h'' (by omega) (by omega) (by omega) (by omega)).mono fun _ _ _ _ hkeeps =>
      hkeeps.mono (by omega)

/-- A quoted scalar is in the text, and takes at least its quote. -/
theorem follows_single (h : Along p x y) (hne : y.rest ≠ []) :
    Follows single single x y (Keeps p (y.rest.length - 1)) := by
  refine (follows_skip h (List.length_pos_iff.2 hne)).then fun _ x' y' h' hle => follows_rest ?_
  exact (follows_body (by decide) (words_singleWord _ _) [] h' (Nat.lt_succ_self _)
    (Nat.lt_succ_self _) le_rfl le_rfl).mono fun _ _ _ _ hkeeps => hkeeps.mono hle

theorem follows_double (h : Along p x y) (hne : y.rest ≠ []) :
    Follows double double x y (Keeps p (y.rest.length - 1)) := by
  refine (follows_skip h (List.length_pos_iff.2 hne)).then fun _ x' y' h' hle => follows_rest ?_
  exact (follows_body (by decide) (words_doubleWord _ _) [] h' (Nat.lt_succ_self _)
    (Nat.lt_succ_self _) le_rfl le_rfl).mono fun _ _ _ _ hkeeps => hkeeps.mono hle

end Quoted

end JsonTypes.Yaml
