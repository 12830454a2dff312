import JsonTypes.Proofs.Yaml.Quoted
import JsonTypes.Yaml.Scalar.Plain

/-!
# Plain scalars in a padded text

White space behind a plain scalar is no part of it, even if the scan goes over it to find that out.
All that is left of it is whether the line ended there.
-/

namespace JsonTypes.Yaml.Plain

variable {p : Padding} {x y : Cursor} {inFlow : Bool} {column : Nat}

/-! ## Words -/

theorem isFlowIndicator_of_isBlank {c : Char} (h : Json.isBlank c = true) :
    isFlowIndicator c = false := by
  obtain rfl | rfl | rfl | rfl := cases_of_isBlank h <;> rfl

theorem isMisplacedColon_of_blank {cs : List Char} (h : ∀ c ∈ cs, Json.isBlank c = true) :
    isMisplacedColon cs = false := by
  unfold isMisplacedColon
  split
  · cases h ':' List.mem_cons_self
  · rfl

theorem isMisplacedColon_append (r : List Char) :
    isMisplacedColon (r ++ p.trail) = isMisplacedColon r := by
  match r with
  | [] => exact isMisplacedColon_of_blank p.blank
  | [c] =>
    rcases htrail : p.trail with _ | ⟨d, ds⟩
    · rfl
    · have hd : Json.isBlank d = true := p.blank d (htrail ▸ List.mem_cons_self)
      have hquery : d ≠ '?' := ne_of_isBlank hd (by decide)
      by_cases hc : c = ':'
      · simp [hc, isMisplacedColon, isFlowIndicator_of_isBlank hd, hquery]
      · simp [isMisplacedColon, hc]
  | c :: d :: r =>
    by_cases hc : c = ':'
    · rw [hc]
      rfl
    · simp [isMisplacedColon, hc]

theorem isWordEnd_of_blank {cs : List Char} (h : ∀ c ∈ cs, Json.isBlank c = true) :
    isWordEnd inFlow cs = true := by
  unfold isWordEnd
  split
  · rfl
  · cases h ':' List.mem_cons_self
  next c r _ =>
    have hgap := isGap_of_isBlank (h c List.mem_cons_self) r
    rw [isGap] at hgap
    rw [hgap, Bool.true_or]

theorem isWordEnd_append (r : List Char) :
    isWordEnd inFlow (r ++ p.trail) = isWordEnd inFlow r := by
  rcases r with _ | ⟨c, r⟩
  · exact isWordEnd_of_blank p.blank
  · by_cases hc : c = ':'
    · rw [hc]
      exact p.isGap_append r
    · simp [isWordEnd]

theorem word_succ (n : Nat) (taken : List Char) : word inFlow (n + 1) taken = (do
    let cs ← Scan.rest
    guard (!(inFlow && isMisplacedColon cs))
    if isWordEnd inFlow cs then pure taken.reverse
    else Scan.skip 1; word inFlow n (cs.head?.toList ++ taken)) := by
  change (Scan.rest >>= _) = _
  congr 1
  funext cs
  rcases cs with _ | ⟨c, cs⟩ <;> rfl

theorem advances_word : ∀ n taken, Advances (word inFlow n taken)
  | 0, _ => .pure _
  | n + 1, taken => by
    rw [word_succ]
    exact Advances.rest.bind fun cs => (Advances.guarded _).bind fun _ => .ite (.pure _)
      ((Advances.skip 1).bind fun _ => advances_word n _)

theorem word_blank (hx : ∀ c ∈ x.rest, Json.isBlank c = true) (n : Nat) (taken : List Char) :
    word inFlow n taken x = some (taken.reverse, x) := by
  rcases n with _ | n
  · rfl
  · have hguard : (!(inFlow && isMisplacedColon x.rest)) = true := by
      rw [isMisplacedColon_of_blank hx, Bool.and_false]
      rfl
    rw [word_succ, rest_bind, guard_bind_pos hguard, if_pos (isWordEnd_of_blank hx)]
    rfl

theorem follows_word {n m : Nat} (taken : List Char) (h : Along p x y) (hn : x.rest.length ≤ n)
    (hm : y.rest.length ≤ m) :
    Follows (word inFlow n taken) (word inFlow m taken) x y (Keeps p y.rest.length) := by
  have hended {n m : Nat} {taken : List Char} {x y : Cursor} (h : Along p x y) (hy : y.rest = []) :
      Follows (word inFlow n taken) (word inFlow m taken) x y (Keeps p y.rest.length) := by
    intro a x' ha
    rw [word_blank (h.blank hy)] at ha
    cases ha
    exact ⟨_, y, word_blank (by simp [hy]) m taken, rfl, h, le_rfl⟩
  induction n generalizing m x y taken with
  | zero => exact hended h (List.eq_nil_of_length_eq_zero (by have := h.length; omega))
  | succ n ih =>
    by_cases hy : y.rest = []
    · exact hended h hy
    have hlength := h.length
    have hpos := List.length_pos_iff.2 hy
    obtain ⟨m, rfl⟩ : ∃ k, m = k + 1 := ⟨m - 1, by omega⟩
    rw [word_succ, word_succ]
    refine follows_rest ?_
    rw [h.rest, isMisplacedColon_append, isWordEnd_append]
    refine .guard_bind id fun _ => .ite Iff.rfl (fun _ => follows_pure h _ le_rfl) fun hend => ?_
    rw [← h.rest, h.head?_eq hy]
    refine (follows_skip h hpos).then fun _ x' y' h' hle => ?_
    have hlength' := h'.length
    exact (ih _ h' (by omega) (by omega)).mono fun _ _ _ _ hkeeps => hkeeps.mono (by omega)

/-- A word that does not end at once takes something. -/
theorem takes_word {n : Nat} {taken : List Char} (hend : isWordEnd inFlow x.rest = false) :
    Takes (word inFlow (n + 1) taken) x := by
  have hne : x.rest ≠ [] := fun hx => by
    rw [hx] at hend
    cases hend
  rw [word_succ]
  refine .rest (.guard_bind ?_)
  rw [if_neg (by simp [hend])]
  exact (Takes.skip hne Nat.one_pos).bind fun _ => advances_word n _

/-! ## Scalars -/

/-- What follows on a word: the end of the scalar, or a gap. -/
def afterWord (inFlow : Bool) (column n : Nat) (taken : List Char) (g : Gap) : Scan Result := do
  if (← Scan.rest).isEmpty || !isGap (← Scan.rest) then pure ⟨taken, g.broken⟩
  else
    let g ← Gap.scan column .none
    if !inFlow && (← Scan.column) < column then pure ⟨taken, g.broken⟩
    else body inFlow column n taken g

theorem body_succ (n : Nat) (taken : List Char) (g : Gap) :
    body inFlow column (n + 1) taken g = (do
      if ← Scan.atDocumentMark then pure ⟨taken, g.broken⟩
      else if (← Scan.peek) = some '#' then pure ⟨taken, g.broken⟩
      else
        let chars ← word inFlow n []
        if chars.isEmpty then afterWord inFlow column n taken g
        else afterWord inFlow column n (taken ++ g.text ++ chars) .none) := by
  rw [body]
  congr 1
  funext mark
  congr 2
  funext o
  congr 2
  funext chars
  cases chars.isEmpty <;> rfl

theorem advances_afterWord {n : Nat} (hbody : ∀ taken g, Advances (body inFlow column n taken g))
    (taken : List Char) (g : Gap) : Advances (afterWord inFlow column n taken g) :=
  Advances.rest.bind fun _ => Advances.rest.bind fun _ => .ite (.pure _)
    ((Gap.advances_scan column _).bind fun _ => Advances.column.bind fun _ =>
      .ite (.pure _) (hbody _ _))

theorem advances_body : ∀ n taken g, Advances (body inFlow column n taken g)
  | 0, _, _ => .pure _
  | n + 1, taken, g => by
    have hafter : ∀ taken g, Advances (afterWord inFlow column n taken g) :=
      advances_afterWord (advances_body n)
    rw [body_succ]
    exact Advances.atDocumentMark.bind fun _ => .ite (.pure _) (Advances.peek.bind fun _ =>
      .ite (.pure _) ((advances_word n []).bind fun _ => .ite (hafter _ _) (hafter _ _)))

/-- In white space a scalar gets no further words, but takes it, if there is any. -/
theorem afterWord_blank {n : Nat} {taken : List Char} {g : Gap} {r : Result} {x' : Cursor}
    (hbody : ∀ g x r x', (∀ c ∈ x.rest, Json.isBlank c = true) →
      body inFlow column n taken g x = some (r, x') → r.text = taken)
    (hx : ∀ c ∈ x.rest, Json.isBlank c = true)
    (h : afterWord inFlow column n taken g x = some (r, x')) :
    r.text = taken ∧ (x' = x ∧ r.broken = g.broken ∨ x'.rest.length < x.rest.length) := by
  rw [afterWord, rest_bind, rest_bind] at h
  by_cases hnil : x.rest = []
  · rw [if_pos (by simp [hnil])] at h
    cases h
    exact ⟨rfl, .inl ⟨rfl, rfl⟩⟩
  rw [if_neg (by simp [hnil, isGap_of_blank hx])] at h
  obtain ⟨⟨g', z⟩, hgap, h⟩ := Option.bind_eq_some_iff.1 h
  have hlt := Gap.scan_lt (isGap_of_blank hx) hnil hgap
  change (ite _ _ _ : Scan _) z = _ at h
  split at h
  · cases h
    exact ⟨rfl, .inr hlt⟩
  · have hz := (Gap.advances_scan column _ x g' z hgap).rest
    refine ⟨hbody g' z r x' (fun c hc => hx c (hz.subset hc)) h, .inr ?_⟩
    exact Nat.lt_of_le_of_lt (advances_body n taken g' z r x' h).rest.length_le hlt

theorem body_blank {n : Nat} {taken : List Char} {g : Gap} {r : Result} {x' : Cursor}
    (hx : ∀ c ∈ x.rest, Json.isBlank c = true)
    (h : body inFlow column n taken g x = some (r, x')) : r.text = taken := by
  induction n generalizing x g r x' with
  | zero =>
    cases h
    rfl
  | succ n ih =>
    rw [body_succ] at h
    change (ite _ _ (Scan.peek >>= _) : Scan _) x = _ at h
    split at h
    · cases h
      rfl
    change (ite _ _ _ : Scan _) x = _ at h
    split at h
    · cases h
      rfl
    obtain ⟨⟨chars, z⟩, hword, h⟩ := Option.bind_eq_some_iff.1 h
    cases (word_blank hx n []).symm.trans hword
    exact (afterWord_blank (fun _ _ _ _ => ih) hx h).1

/-- The text of a scalar is the same. Whether the line ended is, unless the text has. -/
def Same (p : Padding) (n : Nat) (r : Result) (x : Cursor) (r' : Result) (y : Cursor) : Prop :=
  r.text = r'.text ∧ Nears p n r.broken x r'.broken y

theorem Same.mono {m n : Nat} {r r' : Result} (h : Same p m r x r' y) (hmn : m ≤ n) :
    Same p n r x r' y := ⟨h.1, h.2.mono hmn⟩

theorem follows_afterWord {n m k : Nat} {taken : List Char} {g : Gap} (h : Along p x y)
    (hk : y.rest.length ≤ k)
    (hbody : ∀ g x' y', Along p x' y' → y'.rest.length < y.rest.length →
      Follows (body inFlow column n taken g) (body inFlow column m taken g) x' y' (Same p k)) :
    Follows (afterWord inFlow column n taken g) (afterWord inFlow column m taken g) x y
      (Same p k) := by
  by_cases hy : y.rest = []
  · -- The padded scan may go over blanks behind the last word, but no word follows them.
    intro r x' hr
    have hforward := advances_afterWord (advances_body n) taken g x r x' hr
    obtain ⟨htext, hmoved⟩ := afterWord_blank (fun _ _ _ _ => body_blank) (h.blank hy) hr
    refine ⟨⟨taken, g.broken⟩, y, ?_, htext, ?_⟩
    · rw [afterWord, rest_bind, rest_bind, if_pos (by simp [hy])]
      rfl
    · rcases hmoved with ⟨rfl, hbroken⟩ | hlt
      · exact .inl ⟨hbroken, h, hk⟩
      · exact .inr (h.past hy hforward hlt)
  · have hx : x.rest ≠ [] := fun hx => hy (List.append_eq_nil_iff.1 (h.rest ▸ hx)).1
    refine follows_rest (follows_rest ?_)
    rw [Near.isGap_eq (.inl h)]
    refine .ite (by simp [hx, hy]) (fun _ => .pure ⟨rfl, .inl ⟨rfl, h, hk⟩⟩) fun hgap => ?_
    refine (Gap.follows_scan column _ h hy).runs.bind fun g x' g' y' hscan => ?_
    obtain ⟨⟨⟨rfl, h', hle⟩, -⟩, -, hrun⟩ := hscan
    refine follows_column ?_
    rw [h'.column]
    refine .ite Iff.rfl (fun _ => .pure ⟨rfl, .inl ⟨rfl, h', by omega⟩⟩) fun _ => ?_
    exact hbody g x' y' h' (Gap.scan_lt (by simpa [hx] using hgap) hy hrun)

theorem follows_body {n m : Nat} {taken : List Char} {g : Gap} (h : Along p x y)
    (hn : x.rest.length < n) (hm : y.rest.length < m) :
    Follows (body inFlow column n taken g) (body inFlow column m taken g) x y
      (Same p y.rest.length) := by
  induction n generalizing m x y taken g with
  | zero => cases hn
  | succ n ih =>
    obtain ⟨m, rfl⟩ : ∃ k, m = k + 1 := ⟨m - 1, by omega⟩
    have hlength := h.length
    have hdone : Same p y.rest.length ⟨taken, g.broken⟩ x ⟨taken, g.broken⟩ y :=
      ⟨rfl, .inl ⟨rfl, h, le_rfl⟩⟩
    rw [body_succ, body_succ]
    refine follows_atDocumentMark h fun mark => .ite Iff.rfl (fun _ => .pure hdone) fun _ => ?_
    refine follows_test (.inl h) (by decide) (fun _ _ _ => .pure hdone) fun _ => ?_
    refine (follows_word [] h (by omega) (by omega)).then fun chars x' y' h' hle => ?_
    have hnext (taken : List Char) (g : Gap) :
        Follows (afterWord inFlow column n taken g) (afterWord inFlow column m taken g) x' y'
          (Same p y.rest.length) := by
      refine follows_afterWord h' hle fun g x'' y'' h'' hlt => ?_
      have hlength'' := h''.length
      exact (ih h'' (by omega) (by omega)).mono fun _ _ _ _ hsame => hsame.mono (by omega)
    exact .ite Iff.rfl (fun _ => hnext _ _) fun _ => hnext _ _

theorem follows_scan (h : Along p x y) :
    Follows (scan inFlow column) (scan inFlow column) x y (Same p y.rest.length) :=
  follows_rest (follows_body h (Nat.lt_succ_self _) (Nat.lt_succ_self _))

/-- Where a scalar begins with a word, it takes something. -/
theorem takes_scan (hmark : x.atDocumentMark '-' = false ∧ x.atDocumentMark '.' = false)
    (hcomment : x.rest.head? ≠ some '#') (hend : isWordEnd inFlow x.rest = false) :
    Takes (scan inFlow column) x := by
  have hne : x.rest ≠ [] := fun hx => by
    rw [hx] at hend
    cases hend
  obtain ⟨n, hn⟩ : ∃ n, x.rest.length = n + 1 := ⟨x.rest.length - 1, by
    have := List.length_pos_iff.2 hne
    omega⟩
  have hafter : ∀ taken g, Advances (afterWord inFlow column (n + 1) taken g) :=
    advances_afterWord (advances_body (n + 1))
  refine Takes.rest ?_
  rw [body_succ, hn]
  refine .atDocumentMark (.ite (fun h => ?_) fun _ => .peek (.ite (fun h => ?_) fun _ => ?_))
  · simp [hmark] at h
  · exact absurd h hcomment
  · exact (takes_word hend).bind fun _ => .ite (hafter _ _) (hafter _ _)

theorem follows_scan_of_takes (h : Along p x y) (htakes : Takes (scan inFlow column) y) :
    Follows (scan inFlow column) (scan inFlow column) x y (Same p (y.rest.length - 1)) := by
  refine (follows_scan h).runs.mono fun r x' r' y' hscan => ⟨hscan.1.1, ?_⟩
  obtain ⟨⟨-, hnears⟩, -, hrun⟩ := hscan
  have hlt := htakes r' y' hrun
  exact hnears.imp_left fun hkeeps => ⟨hkeeps.1, hkeeps.2.1, by omega⟩

end JsonTypes.Yaml.Plain
