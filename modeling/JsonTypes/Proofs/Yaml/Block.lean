import JsonTypes.Proofs.Yaml.Rules
import JsonTypes.Yaml.Scalar.Block

/-!
# Block scalars in a padded text

White space behind a block scalar may be part of it. Then the scan of the padded text ends in it,
and the scan of the text where the text ends, with a text that may be another.
-/

namespace JsonTypes.Yaml

namespace Block

variable {p : Padding} {x y : Cursor}

/-! ## The head -/

theorem chomping?_eq : chomping? = (do
    let o ← Scan.peek
    if o = some '+' then Scan.skip 1; pure (some .keep)
    else if o = some '-' then Scan.skip 1; pure (some .strip)
    else pure none) := by
  unfold chomping?
  congr 1
  funext o
  split
  · rfl
  · rfl
  next hkeep hstrip => rw [if_neg hkeep, if_neg hstrip]

theorem closed_chomping? : Closed p chomping? := fun x y h => by
  rw [chomping?_eq]
  refine follows_peek (.inl h) (fun _ c r hy => ?_) fun _ o ho => ?_
  · have hskip (v : Chomping) : Follows (do Scan.skip 1; pure (some v))
        (do Scan.skip 1; pure (some v)) x y (Keeps p y.rest.length) :=
      (follows_skip h (by simp [hy])).then fun _ _ _ h' hle => follows_pure h' _ (by omega)
    exact .ite Iff.rfl (fun _ => hskip _) fun _ => .ite Iff.rfl (fun _ => hskip _) fun _ =>
      follows_pure h _ le_rfl
  · have hne {c : Char} (hc : Json.isBlank c = false) : o ≠ some c := fun h =>
      ne_of_isBlank (ho c h) hc rfl
    rw [if_neg (hne (by decide)), if_neg (hne (by decide)), if_neg (by simp), if_neg (by simp)]
    exact follows_pure h _ le_rfl

theorem asciiDigit?_of_isBlank {c : Char} (h : Json.isBlank c = true) :
    Text.asciiDigit? c = none := by
  obtain rfl | rfl | rfl | rfl := cases_of_isBlank h <;> rfl

theorem closed_increment? : Closed p increment? := fun x y h => by
  refine follows_peek (.inl h) (fun _ c r hy => ?_) fun _ o ho => ?_
  · rw [Option.bind_some]
    rcases Text.asciiDigit? c with _ | n
    · exact follows_pure h _ le_rfl
    · exact .guard_bind id fun _ => (follows_skip h (by simp [hy])).then fun _ _ _ h' hle =>
        follows_pure h' _ (by omega)
  · have hnone : o.bind Text.asciiDigit? = none :=
      Option.bind_eq_none_iff.2 fun c hc => asciiDigit?_of_isBlank (ho c hc)
    rw [hnone]
    exact follows_pure h _ le_rfl

/-- The end of the line that a head is on. -/
def headEnd (before after : Option Chomping) (increment : Option Nat) : Scan Head := do
  Scan.restOfLine
  if ← Scan.atBreak then
    let _ ← Scan.lineBreak
  pure ⟨(before.or after).getD .clip, increment⟩

theorem nears_headEnd (before after : Option Chomping) (increment : Option Nat)
    (h : Along p x y) : Follows (headEnd before after increment) (headEnd before after increment)
      x y (Nears p y.rest.length) := by
  let h₀ : Head := ⟨(before.or after).getD .clip, increment⟩
  have hend {x' y' : Cursor} (h' : Near p x' y') (hle : y'.rest.length ≤ y.rest.length) :=
    follows_lineEnd (F := fun _ => pure h₀) (G := fun _ => pure h₀) h' fun _ _ h'' hle' =>
      .pure (Q := Nears p y.rest.length) (h''.nears (by omega) _)
  exact (nears_restOfLine (.inl h)).near (fun _ _ _ h' hle => hend (.inl h') hle)
    fun _ _ _ _ h' => hend (.inr h') (by simp [h'.ended])

theorem nears_head (h : Along p x y) : Follows head head x y (Nears p y.rest.length) := by
  refine (closed_chomping? x y h).then fun before x' y' h' hle => ?_
  refine (closed_increment? x' y' h').then fun increment x' y' h' hle' => ?_
  have hend (after : Option Chomping) {x'' y'' : Cursor} (h'' : Along p x'' y'')
      (hle'' : y''.rest.length ≤ y'.rest.length) :
      Follows (headEnd before after increment) (headEnd before after increment) x'' y''
        (Nears p y.rest.length) :=
    (nears_headEnd before after increment h'').mono fun _ _ _ _ hnears => hnears.mono (by omega)
  rcases before with _ | b
  · rcases increment with _ | n
    · exact hend none h' le_rfl
    · exact (closed_chomping? x' y' h').then fun after _ _ h'' hle'' => hend after h'' hle''
  · exact hend none h' le_rfl

/-! ## Empty lines -/

/-- Goes over the indentation of a line. -/
def indentation (indent : Option Nat) : Scan Unit := do
  let spaces := ((← Scan.rest).takeWhile (· = ' ')).length
  let start ← Scan.column
  Scan.skip (match indent with
    | some n => min spaces (n - start)
    | none => spaces)

/-- What comes behind the indentation of a line. -/
def emptyLine (indent : Option Nat) (n widest : Nat) (breaks : List Char) (column : Nat) :
    Scan (Nat × List Char) := do
  guard (!((← Scan.peek) = some '\t' && indent.all (column < ·)))
  if ← Scan.atBreak then emptyLines indent n (max widest column) (breaks ++ [← Scan.lineBreak])
  else pure (max widest column, breaks)

theorem emptyLines_succ (indent : Option Nat) (n widest : Nat) (breaks : List Char) :
    emptyLines indent (n + 1) widest breaks =
      (do indentation indent; emptyLine indent n widest breaks (← Scan.column)) := rfl

/-- How wide the indentation is. -/
def indentWidth (indent : Option Nat) (c : Cursor) : Nat :=
  let spaces := (c.rest.takeWhile (· = ' ')).length
  match indent with
  | some n => min spaces (n - c.column)
  | none => spaces

theorem indentation_eq (indent : Option Nat) :
    indentation indent x = Scan.skip (indentWidth indent x) x := rfl

theorem indentWidth_le (indent : Option Nat) : indentWidth indent x ≤ x.rest.length := by
  have hle := (List.takeWhile_prefix (l := x.rest) fun c => decide (c = ' ')).length_le
  unfold indentWidth
  dsimp only
  split <;> omega

theorem Along.indentWidth_eq (indent : Option Nat) (h : Along p x y) (hne : y.rest ≠ []) :
    indentWidth indent x = indentWidth indent y := by
  unfold indentWidth
  rw [h.rest, p.takeWhile_append h.within hne fun c hc => by simp_all [isGap, isBlank], h.column]

theorem advances_indentation (indent : Option Nat) : Advances (indentation indent) :=
  Advances.rest.bind fun _ => Advances.column.bind fun _ => .skip _

theorem indentation_nil (indent : Option Nat) (hx : x.rest = []) :
    indentation indent x = some ((), x) := by
  have hzero : indentWidth indent x = 0 := by
    have hle := indentWidth_le (x := x) indent
    rw [hx] at hle
    exact Nat.le_zero.1 hle
  rw [indentation_eq, hzero]
  rfl

theorem nears_indentation (indent : Option Nat) (h : Near p x y) :
    Follows (indentation indent) (indentation indent) x y (Nears p y.rest.length) := by
  by_cases hy : y.rest = []
  · by_cases hzero : indentWidth indent x = 0
    · intro _ x' ha
      rw [indentation_eq, hzero] at ha
      cases ha
      exact ⟨(), y, indentation_nil indent hy, h.nears le_rfl ()⟩
    · refine h.follows_takes hy (advances_indentation indent) ?_ ⟨(), indentation_nil indent hy⟩
      have hle := indentWidth_le (x := x) indent
      have hx : x.rest ≠ [] := fun hx => hzero (by simpa [hx] using hle)
      exact fun a x' ha => Takes.skip hx (Nat.pos_of_ne_zero hzero) a x' ha
  · rcases h with h | h
    · intro a x' ha
      rw [indentation_eq, Along.indentWidth_eq indent h hy] at ha
      obtain ⟨b, y', hb, hkeeps⟩ := follows_skip h (indentWidth_le indent) a x' ha
      exact ⟨b, y', hb, .inl (hkeeps.mono (Nat.sub_le _ _))⟩
    · exact absurd h.ended hy

theorem advances_emptyLine {indent : Option Nat} {n : Nat}
    (hlines : ∀ widest breaks, Advances (emptyLines indent n widest breaks)) (widest : Nat)
    (breaks : List Char) (column : Nat) : Advances (emptyLine indent n widest breaks column) := by
  refine Advances.peek.bind fun _ => (Advances.guarded _).bind fun _ => ?_
  refine (Advances.peek.bind fun _ => .pure _).bind fun _ => .ite ?_ (.pure _)
  exact Advances.lineBreak.bind fun _ => hlines _ _

theorem advances_emptyLines (indent : Option Nat) :
    ∀ n widest breaks, Advances (emptyLines indent n widest breaks)
  | 0, _, _ => .pure _
  | n + 1, widest, breaks => (advances_indentation indent).bind fun _ => Advances.column.bind
      fun column => advances_emptyLine (advances_emptyLines indent n) widest breaks column

theorem emptyLine_nil (indent : Option Nat) (n widest : Nat) (breaks : List Char) (column : Nat)
    (hx : x.rest = []) : Stays (emptyLine indent n widest breaks column) x := by
  rcases x with ⟨rest, index, line, start⟩
  cases hx
  exact ⟨_, rfl⟩

theorem emptyLines_nil (indent : Option Nat) (n widest : Nat) (breaks : List Char)
    (hx : x.rest = []) : Stays (emptyLines indent n widest breaks) x := by
  rcases n with _ | n
  · exact .pure _
  · rw [emptyLines_succ]
    exact Stays.bind ⟨(), indentation_nil indent hx⟩ fun _ =>
      .column (emptyLine_nil indent n widest breaks x.column hx)

theorem nears_emptyLine {indent : Option Nat} {n m k widest column : Nat} {breaks : List Char}
    (h : Along p x y) (hk : y.rest.length ≤ k)
    (hlines : ∀ widest breaks x' y', Along p x' y' → y'.rest.length < y.rest.length →
      Follows (emptyLines indent n widest breaks) (emptyLines indent m widest breaks) x' y'
        (Nears p k)) :
    Follows (emptyLine indent n widest breaks column) (emptyLine indent m widest breaks column) x y
      (Nears p k) := by
  refine follows_peek (.inl h) (fun _ c r hy => .guard_bind id fun _ => ?_) fun hy _ _ => ?_
  · refine follows_any (.inl h) (fun _ _ _ _ => .ite Iff.rfl (fun _ => ?_) fun _ => ?_)
      fun hnil => absurd hnil (by simp [hy])
    · have hpos : 0 < y.rest.length := by simp [hy]
      refine (follows_lineBreak h (by simp [hy])).then fun _ x' y' h' hle => ?_
      exact hlines _ _ x' y' h' (by omega)
    · exact .pure (.inl ⟨rfl, h, hk⟩)
  · refine .guard_bind (fun _ => by simp) fun _ => ?_
    refine follows_any (.inl h) (fun _ _ _ hmore => absurd hy (by simp [hmore])) fun _ b => ?_
    rw [if_neg Bool.false_ne_true]
    cases b with
    | false => exact .pure (.inl ⟨rfl, h, hk⟩)
    | true =>
      have hadvances := advances_emptyLines indent n
      exact Near.follows_takes (.inl h) hy (Advances.lineBreak.bind fun _ => hadvances _ _)
        (Takes.lineBreak.bind fun _ => hadvances _ _) (.pure _)

theorem nears_emptyLines (indent : Option Nat) {n m : Nat} (widest : Nat) (breaks : List Char)
    (h : Near p x y) (hn : x.rest.length < n) (hm : y.rest.length < m) :
    Follows (emptyLines indent n widest breaks) (emptyLines indent m widest breaks) x y
      (Nears p y.rest.length) := by
  induction n generalizing m x y widest breaks with
  | zero => cases hn
  | succ n ih =>
    obtain ⟨m, rfl⟩ : ∃ k, m = k + 1 := ⟨m - 1, by omega⟩
    rcases h.symm with h | h
    · exact h.follows (advances_emptyLines _ _ _ _) (emptyLines_nil _ _ _ _ h.ended)
    have hlength := h.length
    rw [emptyLines_succ, emptyLines_succ]
    refine (nears_indentation indent (.inl h)).near (fun _ x' y' h' hle => ?_)
      fun _ _ x' y' h' => ?_
    · refine follows_column ?_
      rw [h'.column]
      refine nears_emptyLine h' hle fun widest breaks x'' y'' h'' hlt => ?_
      have hlength'' := h''.length
      exact (ih widest breaks (.inl h'') (by omega) (by omega)).mono fun _ _ _ _ hnears =>
        hnears.mono (by omega)
    · exact h'.follows
        (Advances.column.bind fun _ => advances_emptyLine (advances_emptyLines indent n) _ _ _)
        (emptyLine_nil indent m widest breaks y'.column h'.ended)

/-! ## Lines -/

/-- The break of a line, if it has one. -/
def lastBreak : Scan (Option Char) := do
  if ← Scan.atBreak then
    let c ← Scan.lineBreak
    pure (some c)
  else pure none

/-- What comes behind the text of a line. -/
def afterText (indent : Nat) (blank : Bool) (chars : List Char) :
    Scan (Bool × List Char × Option Char × List Char) := do
  let last ← lastBreak
  let (_, more) ← emptyLines (some indent) ((← Scan.rest).length + 1) 0 []
  pure (blank, chars, last, more)

/-- A line of a scalar and the empty lines behind it. -/
def line (indent : Nat) : Scan (Bool × List Char × Option Char × List Char) := do
  let blank ← Scan.atBlank
  let chars ← Scan.takeWhile fun _ => true
  afterText indent blank chars

theorem lines_succ (literal : Bool) (indent n : Nat) (ls : Lines) :
    lines literal indent (n + 1) ls = (do
      if (← Scan.column) = indent ∧ ¬(← Scan.rest).isEmpty then
        let (blank, chars, last, more) ← line indent
        lines literal indent n ⟨ls.joined literal blank ++ chars, last, more, blank⟩
      else pure ls) := by
  rw [lines]
  congr 1
  funext column
  congr 1
  funext cs
  congr 1
  simp only [line, afterText, lastBreak, bind_assoc, pure_bind]
  congr 1
  funext blank
  congr 1
  funext chars
  congr 1
  funext b
  cases b
  · rfl
  · simp

theorem advances_lastBreak : Advances lastBreak :=
  (Advances.peek.bind fun _ => .pure _).bind fun _ =>
    .ite (Advances.lineBreak.bind fun _ => .pure _) (.pure _)

theorem advances_afterText (indent : Nat) (blank : Bool) (chars : List Char) :
    Advances (afterText indent blank chars) :=
  advances_lastBreak.bind fun _ => Advances.rest.bind fun _ =>
    (advances_emptyLines _ _ _ _).bind fun _ => .pure _

theorem advances_line (indent : Nat) : Advances (line indent) :=
  (Advances.peek.bind fun _ => .pure _).bind fun _ => (Advances.takeWhile _).bind fun _ =>
    advances_afterText indent _ _

theorem advances_lines (literal : Bool) (indent : Nat) :
    ∀ n ls, Advances (lines literal indent n ls)
  | 0, _ => .pure _
  | n + 1, ls => by
    rw [lines_succ]
    exact Advances.column.bind fun _ => Advances.rest.bind fun _ =>
      .ite ((advances_line indent).bind fun _ => advances_lines literal indent n _) (.pure _)

theorem lastBreak_nil (hx : x.rest = []) : Stays lastBreak x := by
  rcases x with ⟨rest, index, line, column⟩
  cases hx
  exact ⟨none, rfl⟩

theorem afterText_nil (indent : Nat) (blank : Bool) (chars : List Char) (hx : x.rest = []) :
    Stays (afterText indent blank chars) x :=
  (lastBreak_nil hx).bind fun _ => .rest ((emptyLines_nil _ _ _ _ hx).bind fun _ => .pure _)

theorem lines_nil (literal : Bool) (indent n : Nat) (ls : Lines) (hx : x.rest = []) :
    Stays (lines literal indent n ls) x := by
  rcases n with _ | n
  · exact .pure ls
  · rw [lines_succ]
    refine .column (.rest ?_)
    rw [if_neg (by simp [hx])]
    exact .pure ls

/-- A line takes something, if only its break. -/
theorem takes_line (indent : Nat) (hx : x.rest ≠ []) : Takes (line indent) x := by
  obtain ⟨c, r, hrest⟩ := List.exists_cons_of_ne_nil hx
  refine .run_bind rfl ?_
  by_cases hc : isBreak c
  · have htake : Scan.takeWhile (fun _ => true) x = some ([], x) :=
      run_takeWhile (by simp [hrest, hc])
    refine .run_bind htake (Takes.bind (.run_bind rfl ?_) fun _ => ?_)
    · rw [hrest, if_pos (by simpa using hc)]
      exact Takes.lineBreak.bind fun _ => .pure _
    · exact Advances.rest.bind fun _ => (advances_emptyLines _ _ _ _).bind fun _ => .pure _
  · exact (Takes.takeWhile hrest (by simp [hc])).bind fun _ => advances_afterText indent _ _

theorem nears_lastBreak (h : Near p x y) :
    Follows lastBreak lastBreak x y (Nears p y.rest.length) := by
  refine follows_any h (fun h c r hy => .ite Iff.rfl (fun _ => ?_) fun _ => ?_) fun hy b => ?_
  · exact (follows_lineBreak h (by simp [hy])).then fun _ _ _ h' hle =>
      .pure (.inl ⟨rfl, h', by omega⟩)
  · exact .pure (.inl ⟨rfl, h, le_rfl⟩)
  · rw [if_neg Bool.false_ne_true]
    cases b with
    | false => exact .pure (h.nears le_rfl none)
    | true =>
      exact h.follows_takes hy (Advances.lineBreak.bind fun _ => .pure _)
        (Takes.lineBreak.bind fun _ => .pure _) (.pure none)

theorem nears_afterText (indent : Nat) (blank : Bool) (chars : List Char) (h : Along p x y) :
    Follows (afterText indent blank chars) (afterText indent blank chars) x y
      (Nears p y.rest.length) := by
  refine (nears_lastBreak (.inl h)).near (fun last x' y' h' hle => follows_rest ?_)
    fun last last' x' y' h' => ?_
  · refine (nears_emptyLines _ 0 [] (.inl h') (Nat.lt_succ_self _) (Nat.lt_succ_self _)).near
      (fun _ _ _ h'' hle' => ?_) fun _ _ _ _ h'' => .pure (.inr h'')
    exact .pure (.inl ⟨rfl, h'', by omega⟩)
  · exact h'.follows (Advances.rest.bind fun _ => (advances_emptyLines _ _ _ _).bind fun _ =>
      .pure _) (.rest ((emptyLines_nil _ _ _ _ h'.ended).bind fun _ => .pure _))

theorem nears_line (indent : Nat) (h : Along p x y) (hne : y.rest ≠ []) :
    Follows (line indent) (line indent) x y (Nears p y.rest.length) := by
  refine follows_any (.inl h) (fun _ c r hy => ?_) fun hnil => absurd hnil hne
  refine (nears_takeWhile (.inl h) _).near (fun chars x' y' h' hle => ?_)
    fun chars chars' x' y' h' => ?_
  · exact (nears_afterText indent _ chars h').mono fun _ _ _ _ hnears => hnears.mono hle
  · exact h'.follows (advances_afterText indent _ _) (afterText_nil indent _ _ h'.ended)

theorem nears_lines {literal : Bool} {indent n m : Nat} {ls : Lines} (h : Along p x y)
    (hn : x.rest.length < n) (hm : y.rest.length < m) :
    Follows (lines literal indent n ls) (lines literal indent m ls) x y
      (Nears p y.rest.length) := by
  induction n generalizing m x y ls with
  | zero => cases hn
  | succ n ih =>
    obtain ⟨m, rfl⟩ : ∃ k, m = k + 1 := ⟨m - 1, by omega⟩
    have hlength := h.length
    rw [lines_succ, lines_succ]
    refine follows_column (follows_rest ?_)
    by_cases hy : y.rest = []
    · -- A line of blanks behind the text is a line to the padded scan, which has then passed it.
      by_cases hline : x.column = indent ∧ ¬ x.rest.isEmpty = true
      · have hx : x.rest ≠ [] := by simpa using hline.2
        have hnext := advances_lines literal indent n
        rw [if_pos hline, if_neg (by simp [hy])]
        exact Near.follows_takes (.inl h) hy ((advances_line indent).bind fun _ => hnext _)
          ((takes_line indent hx).bind fun _ => hnext _) (.pure ls)
      · rw [if_neg hline, if_neg (by simp [hy])]
        exact .pure (.inl ⟨rfl, h, le_rfl⟩)
    have hx : x.rest ≠ [] := fun hx => hy (List.append_eq_nil_iff.1 (h.rest ▸ hx)).1
    rw [h.column]
    refine .ite (by simp [hx, hy]) (fun _ => ?_) fun _ => .pure (.inl ⟨rfl, h, le_rfl⟩)
    refine (nears_line indent h hy).runs.bind fun a x' b y' hline => ?_
    obtain ⟨⟨rfl, h', hle⟩ | h', -, hrun⟩ := hline
    · have hlt := takes_line indent hy a y' hrun
      have hlength' := h'.length
      exact (ih h' (by omega) (by omega)).mono fun _ _ _ _ hnears => hnears.mono hle
    · exact h'.follows (advances_lines literal indent n _)
        (lines_nil literal indent m _ h'.ended)

/-! ## Scalars -/

/-- What comes behind the head of a scalar. -/
def body (literal : Bool) (parent : Option Nat) (h : Head) : Scan (List Char) := do
  let given := h.increment.map (parent.getD 0 + ·)
  let (widest, more) ← emptyLines given ((← Scan.rest).length + 1) 0 []
  let least := match parent with
    | some column => column + 1
    | none => 1
  let indent := given.getD (max widest least)
  let ls ← lines literal indent ((← Scan.rest).length + 1) ⟨[], none, more, false⟩
  pure (ls.chomped h.chomping)

theorem scan_eq (literal : Bool) (parent : Option Nat) :
    scan literal parent = head >>= body literal parent := rfl

theorem advances_body (literal : Bool) (parent : Option Nat) (h : Head) :
    Advances (body literal parent h) :=
  Advances.rest.bind fun _ => (advances_emptyLines _ _ _ _).bind fun _ => Advances.rest.bind
    fun _ => (advances_lines literal _ _ _).bind fun _ => .pure _

theorem body_nil (literal : Bool) (parent : Option Nat) (h : Head) (hx : x.rest = []) :
    Stays (body literal parent h) x :=
  .rest ((emptyLines_nil _ _ _ _ hx).bind fun _ => .rest ((lines_nil literal _ _ _ hx).bind
    fun _ => .pure _))

/-- A block scalar ends in the text, or where the text has ended. -/
theorem nears_scan (literal : Bool) (parent : Option Nat) (h : Along p x y) :
    Follows (scan literal parent) (scan literal parent) x y (Nears p y.rest.length) := by
  rw [scan_eq]
  refine (nears_head h).near (fun first x' y' h' hle => follows_rest ?_)
    fun first first' x' y' h' => ?_
  · refine (nears_emptyLines _ 0 [] (.inl h') (Nat.lt_succ_self _) (Nat.lt_succ_self _)).near
      (fun r x'' y'' h'' hle' => follows_rest ?_) fun r r' x'' y'' h'' => ?_
    · refine (nears_lines h'' (Nat.lt_succ_self _) (Nat.lt_succ_self _)).near
        (fun _ _ _ h3 hle'' => .pure (.inl ⟨rfl, h3, by omega⟩)) fun _ _ _ _ h3 => .pure (.inr h3)
    · exact h''.follows (Advances.rest.bind fun _ => (advances_lines literal _ _ _).bind fun _ =>
        .pure _) (.rest ((lines_nil literal _ _ _ h''.ended).bind fun _ => .pure _))
  · exact h'.follows (advances_body literal parent first) (body_nil literal parent first' h'.ended)

end Block

end JsonTypes.Yaml
