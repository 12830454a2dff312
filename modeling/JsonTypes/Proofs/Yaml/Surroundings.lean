import JsonTypes.Proofs.Yaml.Layouts
import JsonTypes.Yaml.Document

/-!
# White space around a YAML text

A text with white space around it is laid out in the tokens of the text, as long as its first line
is not moved to the right and no block scalar goes on behind its end.
-/

namespace JsonTypes.Yaml

/-! ## Going to the next token -/

/-- A layout that has only gone over characters since. -/
def Onward (l l' : Layout) : Prop :=
  Forward l.cursor l'.cursor ∧ ∃ allowed, l' = { l with cursor := l'.cursor, keyAllowed := allowed }

/-- A step that only goes over characters. -/
def Paces {α : Type} (f : Lay α) : Prop := ∀ l a l', f l = some (a, l') → Onward l l'

theorem Onward.trans {l l' l'' : Layout} (h : Onward l l') (h' : Onward l' l'') : Onward l l'' := by
  obtain ⟨hforward, allowed, hl⟩ := h
  obtain ⟨hforward', allowed', hl'⟩ := h'
  refine ⟨hforward.trans hforward', allowed', ?_⟩
  rw [hl', hl]

namespace Paces

variable {α β : Type} {f g : Lay α}

protected theorem pure (a : α) : Paces (pure a) := by
  rintro l _ _ ⟨⟩
  exact ⟨.refl _, l.keyAllowed, rfl⟩

protected theorem bind {F : α → Lay β} (h : Paces f) (hnext : ∀ a, Paces (F a)) :
    Paces (f >>= F) := by
  intro l b z hb
  obtain ⟨⟨a, l'⟩, ha, hb⟩ := Option.bind_eq_some_iff.1 hb
  exact (h l a l' ha).trans (hnext a l' b z hb)

theorem ite {q : Prop} [Decidable q] (hf : Paces f) (hg : Paces g) :
    Paces (if q then f else g) := by
  split
  · exact hf
  · exact hg

theorem get : Paces (get : Lay Layout) := by
  rintro l _ _ ⟨⟩
  exact ⟨.refl _, l.keyAllowed, rfl⟩

theorem scanning {s : Scan α} (h : Advances s) : Paces (Lay.scanning s) := by
  intro l a l' ha
  obtain ⟨⟨a, x'⟩, hs, hl⟩ := Option.map_eq_some_iff.1 ha
  cases hl
  exact ⟨h _ _ _ hs, l.keyAllowed, rfl⟩

theorem allowKey (allowed : Bool) : Paces (Lay.allowKey allowed) := by
  rintro l _ _ ⟨⟩
  exact ⟨.refl _, allowed, rfl⟩

end Paces

section Done

variable {p : Padding} {l m : Layout}

theorem Done.onward {l' : Layout} (h : Done p l m) (hl : Onward l l') : Done p l' m := by
  obtain ⟨hforward, allowed, hl⟩ := hl
  have hblank : ∀ c ∈ l'.cursor.rest, Json.isBlank c = true := fun c hc =>
    h.blank c (hforward.rest.subset hc)
  have hindex : m.cursor.index + p.index ≤ l'.cursor.index := h.index.trans hforward.index
  have hline : m.cursor.line + p.line ≤ l'.cursor.line := h.line.trans hforward.line
  rw [hl]
  exact { h with blank := hblank, index := hindex, line := hline }

theorem Done.of_layout (hm : m.cursor.rest <:+ p.text) (hended : m.cursor.rest = []) :
    Done p (p.layout m) m :=
  ⟨hended, (Padding.along_cursor hm).blank hended, le_rfl, le_rfl, rfl, rfl, rfl, rfl⟩

/-- Where the text has ended, the layout of the padded text may go on over white space. -/
theorem Done.follows {f g : Lay Unit} {n : Nat} (h : Done p l m) (hf : Paces f)
    (hg : g m = some ((), m)) : Follows f g l m (Lands p n) :=
  fun a l' ha => ⟨(), m, hg, .inr (h.onward (hf l a l' ha))⟩

end Done

namespace Lay

/-- Goes over a line break and on to the next token. -/
def skipEnd (flow : Bool) (n : Nat) : Lay Unit := do
  if ← scanning Scan.atBreak then
    let _ ← scanning Scan.lineBreak
    unless flow do allowKey true
    skipToToken n

def skipComment (flow : Bool) (n : Nat) : Lay Unit := do
  if (← peek) = some '#' then
    let _ ← scanning (Scan.takeWhile fun _ => true)
  skipEnd flow n

def skipBlanks (flow tabs : Bool) (n : Nat) : Lay Unit := do
  let _ ← scanning (Scan.takeWhile fun c => c = ' ' || (tabs && c = '\t'))
  skipComment flow n

theorem skipToToken_succ (n : Nat) : skipToToken (n + 1) = (do
    let l ← get
    if l.cursor.column = 0 ∧ l.cursor.rest.head? = some '\uFEFF' then skip 1
    skipBlanks l.inFlow (l.inFlow || !l.keyAllowed) n) := rfl

theorem paces_skipEnd {n : Nat} (hnext : Paces (skipToToken n)) (flow : Bool) :
    Paces (skipEnd flow n) := by
  refine (Paces.scanning (Advances.peek.bind fun _ => .pure _)).bind fun _ => .ite ?_ (.pure ())
  refine (Paces.scanning .lineBreak).bind fun _ => .ite hnext ?_
  exact (Paces.allowKey true).bind fun _ => hnext

theorem paces_skipComment {n : Nat} (hnext : Paces (skipToToken n)) (flow : Bool) :
    Paces (skipComment flow n) := by
  have hend := paces_skipEnd hnext flow
  exact (Paces.scanning .peek).bind fun _ =>
    .ite ((Paces.scanning (.takeWhile _)).bind fun _ => hend) hend

theorem paces_skipBlanks {n : Nat} (hnext : Paces (skipToToken n)) (flow tabs : Bool) :
    Paces (skipBlanks flow tabs n) :=
  (Paces.scanning (.takeWhile _)).bind fun _ => paces_skipComment hnext flow

theorem paces_skipToToken : ∀ n, Paces (skipToToken n)
  | 0 => .pure ()
  | n + 1 => by
    have hblanks (l : Layout) := paces_skipBlanks (paces_skipToToken n) l.inFlow
      (l.inFlow || !l.keyAllowed)
    exact Paces.get.bind fun l => .ite
      ((Paces.scanning (.skip 1)).bind fun _ => hblanks l) (hblanks l)

/-! At the end of a text there is nothing to go over. -/

theorem skipEnd_nil (flow : Bool) (n : Nat) {m : Layout} (hm : m.cursor.rest = []) :
    skipEnd flow n m = some ((), m) := by
  rcases m with ⟨⟨rest, _, _, _⟩, _, _, _, _, _⟩
  cases hm
  rfl

theorem skipComment_nil (flow : Bool) (n : Nat) {m : Layout} (hm : m.cursor.rest = []) :
    skipComment flow n m = some ((), m) := by
  rcases m with ⟨⟨rest, _, _, _⟩, _, _, _, _, _⟩
  cases hm
  rfl

theorem skipBlanks_nil (flow tabs : Bool) (n : Nat) {m : Layout} (hm : m.cursor.rest = []) :
    skipBlanks flow tabs n m = some ((), m) := by
  rcases m with ⟨⟨rest, _, _, _⟩, _, _, _, _, _⟩
  cases hm
  rfl

theorem skipToToken_nil (n : Nat) {m : Layout} (hm : m.cursor.rest = []) :
    skipToToken n m = some ((), m) := by
  rcases n with _ | n
  · rfl
  · rcases m with ⟨⟨rest, _, _, column⟩, _, _, _, _, _⟩
    cases hm
    cases column <;> rfl

section Looks

variable {α : Type} {l m : Layout} {Q : α → Layout → α → Layout → Prop}

theorem follows_peek {F G : Option Char → Lay α}
    (h : Follows (F l.cursor.rest.head?) (G m.cursor.rest.head?) l m Q) :
    Follows (peek >>= F) (peek >>= G) l m Q := h

theorem follows_atBreak {F G : Bool → Lay α}
    (h : Follows (F (l.cursor.rest.head?.any isBreak)) (G (m.cursor.rest.head?.any isBreak)) l m
      Q) :
    Follows (scanning Scan.atBreak >>= F) (scanning Scan.atBreak >>= G) l m Q := h

end Looks

section Lands

variable {p : Padding} {m : Layout} {n k b : Nat} {flow tabs : Bool}

/-- The rest of the way to the next token, from a place with fewer characters left. -/
def Goes (p : Padding) (n k b : Nat) (m : Layout) : Prop :=
  ∀ m', m'.cursor.rest <:+ p.text → m'.cursor.rest.length < m.cursor.rest.length →
    Follows (skipToToken n) (skipToToken k) (p.layout m') m' (Lands p b)

theorem Goes.mono {m' : Layout} (h : Goes p n k b m)
    (hle : m'.cursor.rest.length ≤ m.cursor.rest.length) : Goes p n k b m' :=
  fun m'' hm'' hlt => h m'' hm'' (by omega)

theorem lands_skipEnd (hm : m.cursor.rest <:+ p.text) (hb : m.cursor.rest.length ≤ b)
    (hgoes : Goes p n k b m) :
    Follows (skipEnd flow n) (skipEnd flow k) (p.layout m) m (Lands p b) := by
  by_cases hy : m.cursor.rest = []
  · exact Done.follows (.of_layout hm hy) (paces_skipEnd (paces_skipToToken n) flow)
      (skipEnd_nil flow k hy)
  have halong := Padding.along_cursor hm
  have hpos := List.length_pos_iff.2 hy
  have hhead : (p.layout m).cursor.rest.head? = m.cursor.rest.head? := halong.head?_eq hy
  refine follows_atBreak ?_
  rw [hhead]
  refine .ite Iff.rfl (fun _ => ?_) fun _ => (moved_pure () hm hb).mono fun _ _ _ _ => .inl
  refine (moved_scanning (follows_lineBreak halong hy)).thenMoved fun _ m₁ h₁ hle => ?_
  refine .ite Iff.rfl (fun _ => hgoes m₁ h₁ (by omega)) fun _ => ?_
  refine (Even.allowKey true).then fun _ m₂ h₂ => hgoes m₂ (h₂ ▸ h₁) ?_
  rw [h₂]
  omega

theorem lands_skipComment (hm : m.cursor.rest <:+ p.text) (hb : m.cursor.rest.length ≤ b)
    (hgoes : Goes p n k b m) :
    Follows (skipComment flow n) (skipComment flow k) (p.layout m) m (Lands p b) := by
  have hpaces := paces_skipToToken n
  by_cases hy : m.cursor.rest = []
  · exact Done.follows (.of_layout hm hy) (paces_skipComment hpaces flow)
      (skipComment_nil flow k hy)
  have halong := Padding.along_cursor hm
  have hhead : (p.layout m).cursor.rest.head? = m.cursor.rest.head? := halong.head?_eq hy
  refine follows_peek ?_
  rw [hhead]
  refine .ite Iff.rfl (fun _ => ?_) fun _ => lands_skipEnd hm hb hgoes
  refine (follows_scanning (nears_takeWhile (.inl halong) _)).bind fun _ l₁ _ m₁ htake => ?_
  obtain ⟨⟨-, halong', hle⟩ | hpast, hl, hm'⟩ := htake
  · rw [layout_of_along halong' hl hm']
    exact lands_skipEnd halong'.within (by omega) (hgoes.mono hle)
  · have hdone : Done p l₁ m₁ := by
      rw [hl, hm']
      exact .of_past hpast
    exact hdone.follows (paces_skipEnd hpaces flow) (skipEnd_nil flow k hpast.ended)

theorem lands_skipBlanks (hm : m.cursor.rest <:+ p.text) (hb : m.cursor.rest.length ≤ b)
    (hgoes : Goes p n k b m) :
    Follows (skipBlanks flow tabs n) (skipBlanks flow tabs k) (p.layout m) m (Lands p b) := by
  by_cases hy : m.cursor.rest = []
  · exact Done.follows (.of_layout hm hy) (paces_skipBlanks (paces_skipToToken n) flow tabs)
      (skipBlanks_nil flow tabs k hy)
  have hblank : ∀ c, (decide (c = ' ') || (tabs && decide (c = '\t'))) = true →
      isGap [c] = true := by
    intro c hc
    obtain rfl | ⟨-, rfl⟩ : c = ' ' ∨ tabs = true ∧ c = '\t' := by simpa using hc
    · rfl
    · rfl
  refine (moved_scanning (follows_takeBlanks (Padding.along_cursor hm) hy hblank)).thenMoved
    fun _ m₁ h₁ hle => ?_
  exact lands_skipComment h₁ (by omega) (hgoes.mono hle)

theorem lands_skipToToken (hm : m.cursor.rest <:+ p.text)
    (hn : (p.layout m).cursor.rest.length < n) (hk : m.cursor.rest.length < k) :
    Follows (skipToToken n) (skipToToken k) (p.layout m) m (Lands p m.cursor.rest.length) := by
  induction n generalizing k m with
  | zero => cases hn
  | succ n ih =>
    obtain ⟨k, rfl⟩ : ∃ j, k = j + 1 := ⟨k - 1, by omega⟩
    have halong := Padding.along_cursor hm
    rw [Padding.layout_length] at hn
    have hgoes : Goes p n k m.cursor.rest.length m := fun m' hm' hlt =>
      (ih hm' (by rw [Padding.layout_length]; omega) (by omega)).mono fun _ _ _ _ hlands =>
        hlands.mono (by omega)
    by_cases hy : m.cursor.rest = []
    · exact Done.follows (.of_layout hm hy) (paces_skipToToken _) (skipToToken_nil _ hy)
    have hhead : (p.layout m).cursor.rest.head? = m.cursor.rest.head? := halong.head?_eq hy
    rw [skipToToken_succ, skipToToken_succ]
    refine follows_get ?_
    rw [hhead, Padding.layout_inFlow]
    have hblanks {m' : Layout} (hm' : m'.cursor.rest <:+ p.text)
        (hle : m'.cursor.rest.length ≤ m.cursor.rest.length) :
        Follows (skipBlanks m.inFlow (m.inFlow || !m.keyAllowed) n)
          (skipBlanks m.inFlow (m.inFlow || !m.keyAllowed) k) (p.layout m') m'
          (Lands p m.cursor.rest.length) :=
      lands_skipBlanks hm' hle (hgoes.mono hle)
    refine .ite Iff.rfl (fun _ => ?_) fun _ => hblanks hm le_rfl
    exact (moved_skip hm (List.length_pos_iff.2 hy)).thenMoved fun _ m₁ h₁ hle =>
      hblanks h₁ (by omega)

end Lands

/-! ## Rounds -/

/-- The token that starts here, which may be a directive or the mark of a document. -/
def token (c : Char) (cs : List Char) : Lay Unit := do
  let l ← get
  if l.cursor.column = 0 ∧ c = '%' then directive
  else if l.cursor.atDocumentMark '-' then documentMark .documentStart
  else if l.cursor.atDocumentMark '.' then documentMark .documentEnd
  else next l.inFlow c cs

/-- What is done before each token. -/
def settle : Lay Unit := do
  dropStalePlaces
  closeBlocksAfter (← column)

/-- The token that starts here and all that follow. -/
def laid (n : Nat) : Lay Unit := do
  match (← get).cursor.rest with
  | [] => leaveDocument
  | c :: cs =>
    token c cs
    all n

theorem laid_nil (n : Nat) {l : Layout} (hl : l.cursor.rest = []) : laid n l = leaveDocument l := by
  change (match l.cursor.rest with
    | [] => leaveDocument
    | c :: cs => token c cs >>= fun _ => all n : Lay Unit) l = _
  rw [hl]

theorem laid_cons (n : Nat) {l : Layout} {c : Char} {cs : List Char}
    (hl : l.cursor.rest = c :: cs) : laid n l = (do token c cs; all n : Lay Unit) l := by
  change (match l.cursor.rest with
    | [] => leaveDocument
    | c :: cs => token c cs >>= fun _ => all n : Lay Unit) l = _
  rw [hl]

theorem all_succ (n : Nat) : all (n + 1) = (do skipToToken (n + 1); settle; laid n) := by
  rw [all]
  simp only [settle, bind_assoc]
  refine bind_congr fun _ => bind_congr fun _ => bind_congr fun _ => bind_congr fun _ => ?_
  refine funext fun l => ?_
  change (match l.cursor.rest with
    | [] => _
    | c :: cs => _ : Lay Unit) l = (match l.cursor.rest with
    | [] => _
    | c :: cs => _ : Lay Unit) l
  rcases l.cursor.rest with _ | ⟨c, cs⟩
  · rfl
  · change _ = (ite _ _ (ite _ _ (ite _ _ _)) >>= fun _ => all n : Lay Unit) l
    dsimp only
    by_cases hdirective : l.cursor.column = 0 ∧ c = '%'
    · rw [if_pos hdirective, if_pos hdirective]
    rw [if_neg hdirective, if_neg hdirective]
    by_cases hstart : l.cursor.atDocumentMark '-' = true
    · rw [if_pos hstart, if_pos hstart]
    rw [if_neg hstart, if_neg hstart]
    by_cases hend : l.cursor.atDocumentMark '.' = true
    · rw [if_pos hend, if_pos hend]
    · rw [if_neg hend, if_neg hend]

/-! ## The last round -/

/-- The token that says that a block ends. -/
def blockEnds (n : Nat) : Array Piece := Array.replicate n ⟨[], .blockEnd⟩

theorem push_blockEnds (pieces : Array Piece) (n : Nat) :
    pieces.push ⟨[], .blockEnd⟩ ++ blockEnds n = pieces ++ blockEnds (n + 1) := by
  apply Array.toList_inj.1
  simp [blockEnds, List.replicate_succ]

theorem blockEnds_append (m n : Nat) : blockEnds m ++ blockEnds n = blockEnds (m + n) := by
  apply Array.toList_inj.1
  simp [blockEnds]

theorem append_blockEnds_zero (pieces : Array Piece) : pieces ++ blockEnds 0 = pieces :=
  Array.append_empty

theorem closeBlocks_run (column : Nat) (l : Layout) (columns : List Nat) :
    ∃ k ≤ columns.length, closeBlocks column columns { l with columns := columns } =
      some ((), { l with columns := columns.drop k, pieces := l.pieces ++ blockEnds k }) := by
  induction columns generalizing l with
  | nil =>
    refine ⟨0, le_rfl, ?_⟩
    rw [append_blockEnds_zero]
    rfl
  | cons c outer ih =>
    by_cases hc : column < c
    · obtain ⟨k, hk, hrun⟩ := ih { l with pieces := l.pieces.push ⟨[], .blockEnd⟩ }
      refine ⟨k + 1, Nat.succ_le_succ hk, ?_⟩
      rw [closeBlocks, if_pos hc]
      refine hrun.trans ?_
      simp only [push_blockEnds, List.drop_succ_cons]
    · refine ⟨0, Nat.zero_le _, ?_⟩
      rw [closeBlocks, if_neg hc, append_blockEnds_zero]
      rfl

theorem closeAllBlocks_run (l : Layout) (columns : List Nat) : closeAllBlocks columns l =
    some ((), { l with columns := [], pieces := l.pieces ++ blockEnds columns.length }) := by
  induction columns generalizing l with
  | nil =>
    rw [List.length_nil, append_blockEnds_zero]
    rfl
  | cons c outer ih =>
    refine (ih { l with pieces := l.pieces.push ⟨[], .blockEnd⟩ }).trans ?_
    simp only [push_blockEnds, List.length_cons]

end Lay

namespace Layout

/-- Whether the text may end here: no place that has to be a key is left. -/
def mayEnd (l : Layout) : Bool := l.fresh && !(kept l.cursor l.keyPlace).any (·.required)

/-- The pieces of a text that ends here. -/
def ending (l : Layout) : Array Piece :=
  if l.inFlow then l.pieces else l.pieces ++ Lay.blockEnds l.columns.length

theorem dropStale_ending (l : Layout) : l.dropStale.ending = l.ending := by
  simp [ending, inFlow, dropStale]

end Layout

namespace Lay

theorem closeBlocksAfter_run (column : Nat) (l : Layout) :
    ∃ l', closeBlocksAfter column l = some ((), l') ∧ l'.cursor = l.cursor ∧
      l'.keyPlace = l.keyPlace ∧ l'.ending = l.ending := by
  by_cases hflow : l.inFlow
  · refine ⟨l, ?_, rfl, rfl, rfl⟩
    change (ite _ _ _ : Lay Unit) _ = _
    rw [if_pos hflow]
    rfl
  · obtain ⟨k, hk, hclose⟩ := closeBlocks_run column l l.columns
    refine ⟨{ l with columns := l.columns.drop k, pieces := l.pieces ++ blockEnds k },
      ?_, rfl, rfl, ?_⟩
    · change (ite _ _ _ : Lay Unit) _ = _
      rw [if_neg hflow]
      exact hclose
    · refine (if_neg hflow).trans ?_
      have hlength : k + (l.columns.drop k).length = l.columns.length := by
        rw [List.length_drop]
        exact Nat.add_sub_cancel' hk
      rw [Layout.ending, if_neg hflow, Array.append_assoc, blockEnds_append, hlength]

theorem guard_run {q : Prop} [Decidable q] {α : Type} (f : Lay α) (l : Layout) :
    (guard q >>= fun _ => f) l = if q then f l else none := by
  by_cases hq : q
  · rw [guard_pos hq, if_pos hq]
    rfl
  · rw [guard_neg hq, if_neg hq]
    rfl

theorem dropStalePlaces_run (l : Layout) :
    dropStalePlaces l = if l.fresh then some ((), l.dropStale) else none := by
  rw [dropStalePlaces_eq]
  exact guard_run (set l.dropStale) l

theorem dropKeyPlace_run (l : Layout) : dropKeyPlace l =
    if !l.keyPlace.any (·.required) then some ((), { l with keyPlace := none }) else none :=
  guard_run (q := (!l.keyPlace.any (·.required)) = true)
    (modify fun l : Layout => { l with keyPlace := none }) l

theorem settle_run (l : Layout) : settle l = if l.fresh then
    closeBlocksAfter l.cursor.column l.dropStale else none := by
  change (dropStalePlaces l).bind (fun r => closeBlocksAfter r.2.cursor.column r.2) = _
  rw [dropStalePlaces_run]
  split <;> rfl

theorem settle_cursor {l l' : Layout} (h : settle l = some ((), l')) : l'.cursor = l.cursor := by
  obtain ⟨l₁, hrun, hcursor, -, -⟩ := closeBlocksAfter_run l.cursor.column l.dropStale
  rw [settle_run] at h
  obtain ⟨-, h⟩ := Option.ite_none_right_eq_some.1 h
  cases hrun.symm.trans h
  exact hcursor

theorem leaveDocument_run (l : Layout) : ∃ l', l'.pieces = l.ending ∧
    leaveDocument l = if !l.keyPlace.any (·.required) then some ((), l') else none := by
  have hend (l₁ : Layout) (hplace : l₁.keyPlace = l.keyPlace) :
      (dropKeyPlace >>= fun _ => allowKey false : Lay Unit) l₁ =
        if !l.keyPlace.any (·.required) then
          some ((), { l₁ with keyPlace := none, keyAllowed := false }) else none := by
    change (dropKeyPlace l₁).bind (fun r => some ((), { r.2 with keyAllowed := false })) = _
    rw [dropKeyPlace_run, hplace]
    split <;> rfl
  by_cases hflow : l.inFlow
  · refine ⟨{ l with keyPlace := none, keyAllowed := false },
      by rw [Layout.ending, if_pos hflow], ?_⟩
    change (ite _ _ _ : Lay Unit) l = _
    rw [if_pos hflow]
    exact hend l rfl
  · refine ⟨{ l with
      columns := [], pieces := l.pieces ++ blockEnds l.columns.length, keyPlace := none,
      keyAllowed := false }, by rw [Layout.ending, if_neg hflow], ?_⟩
    change (ite _ _ (closeAllBlocks l.columns >>= _) : Lay Unit) l = _
    rw [if_neg hflow]
    change (closeAllBlocks l.columns l).bind _ = _
    rw [closeAllBlocks_run]
    exact hend { l with columns := [], pieces := l.pieces ++ blockEnds l.columns.length } rfl

/-- At the end of a text the last round closes all blocks. -/
theorem last_run {l : Layout} (hl : l.cursor.rest = []) (n : Nat) :
    ∃ l', l'.pieces = l.ending ∧
      (settle >>= fun _ => laid n : Lay Unit) l = if l.mayEnd then some ((), l') else none := by
  obtain ⟨l₁, hrun, hcursor, hplace, hending⟩ := closeBlocksAfter_run l.cursor.column l.dropStale
  obtain ⟨l', hpieces, hleave⟩ := leaveDocument_run l₁
  refine ⟨l', hpieces.trans (hending.trans l.dropStale_ending), ?_⟩
  change (settle l).bind (fun r => laid n r.2) = _
  rw [settle_run, Layout.mayEnd]
  by_cases hfresh : l.fresh
  · rw [if_pos hfresh, hrun, hfresh, Bool.true_and]
    refine (laid_nil n (hcursor ▸ hl)).trans ?_
    rw [hleave, hplace]
    rfl
  · rw [if_neg hfresh, if_neg (by simp [hfresh])]
    rfl

/-- White space is no token. -/
theorem token_blank {l : Layout} {c : Char} {cs : List Char} (hl : l.cursor.rest = c :: cs)
    (hc : Json.isBlank c = true) : token c cs l = none := by
  have hmark {mark : Char} (hmark : Json.isBlank mark = false) :
      ¬ l.cursor.atDocumentMark mark = true := by
    unfold Cursor.atDocumentMark
    split
    next hrest =>
      cases hl.symm.trans hrest
      simp [ne_of_isBlank hc hmark]
    · exact Bool.false_ne_true
  have hnext : next l.inFlow c cs = failure := by
    obtain rfl | rfl | rfl | rfl := cases_of_isBlank hc
    · rfl
    · rfl
    · rfl
    · rfl
  have hdirective : ¬ (l.cursor.column = 0 ∧ c = '%') := fun h =>
    ne_of_isBlank hc (by decide) h.2
  change (ite _ _ (ite _ _ (ite _ _ _)) : Lay Unit) l = none
  rw [if_neg hdirective, if_neg (hmark (by decide)), if_neg (hmark (by decide)), hnext]
  rfl

/-- No token starts with a blank. -/
theorem laid_blank (n : Nat) {l : Layout} {c : Char} {cs : List Char}
    (hl : l.cursor.rest = c :: cs) (hc : Json.isBlank c = true) :
    (do settle; laid n : Lay Unit) l = none := by
  refine Option.eq_none_iff_forall_ne_some.2 fun r hr => ?_
  obtain ⟨⟨⟨⟩, l₁⟩, hsettle, hlaid⟩ := Option.bind_eq_some_iff.1 hr
  rw [← settle_cursor hsettle] at hl
  obtain ⟨_, htoken, -⟩ := Option.bind_eq_some_iff.1 ((laid_cons n hl).symm.trans hlaid)
  cases (token_blank hl hc).symm.trans htoken

end Lay

section Done

variable {p : Padding} {l m : Layout}

/-- Behind the text the places are further back, if anything. -/
theorem Done.isStale (h : Done p l m) {k : Option KeyPlace}
    (hk : k.any (Lay.isStale m.cursor) = true) :
    (k.map p.place).any (Lay.isStale l.cursor) = true := by
  have hindex := h.index
  have hline := h.line
  rcases k with _ | k
  · cases hk
  · simp only [Option.map_some, Option.any_some, Lay.isStale, Padding.place, Bool.or_eq_true,
      decide_eq_true_eq] at hk ⊢
    omega

theorem Done.isFresh (h : Done p l m) {k : Option KeyPlace}
    (hk : isFresh l.cursor (k.map p.place) = true) : isFresh m.cursor k = true := by
  simp only [Yaml.isFresh, Bool.not_eq_true', Bool.and_eq_false_iff, Padding.any_place] at hk ⊢
  refine hk.imp_left fun hk => Bool.eq_false_iff.2 fun hstale => ?_
  cases hk.symm.trans (h.isStale hstale)

theorem Done.mayEnd (h : Done p l m) (hl : l.mayEnd = true) : m.mayEnd = true := by
  obtain ⟨hfresh, hplace⟩ := Bool.and_eq_true_iff.1 hl
  have hplaces : l.keyPlace :: l.outerPlaces =
      (m.keyPlace :: m.outerPlaces).map (·.map p.place) := by
    rw [h.keyPlace, h.outerPlaces]
    rfl
  rw [Layout.fresh, hplaces, List.all_map, List.all_eq_true] at hfresh
  refine Bool.and_eq_true_iff.2 ⟨List.all_eq_true.2 fun k hk => h.isFresh (hfresh k hk), ?_⟩
  have hkey := hfresh m.keyPlace List.mem_cons_self
  rw [Bool.not_eq_true', h.keyPlace] at hplace
  by_cases hstale : m.keyPlace.any (Lay.isStale m.cursor) = true
  · rw [kept, if_pos hstale]
    rfl
  · rw [kept, if_neg hstale, Bool.not_eq_true']
    by_cases hfar : (m.keyPlace.map p.place).any (Lay.isStale l.cursor) = true
    · simpa [Yaml.isFresh, hfar] using hkey
    · rwa [kept, if_neg hfar, Padding.any_place] at hplace

end Done

theorem Done.ending {p : Padding} {l m : Layout} (h : Done p l m) : l.ending = m.ending := by
  simp [Layout.ending, Layout.inFlow, h.outerPlaces, h.pieces, h.columns]

/-! ## Runs -/

/-- The layouts in which the tokens of a text start. -/
inductive TokenStarts (text : List Char) : Layout → Prop
  | first (n : Nat) {l : Layout} :
      (do Lay.skipToToken n; Lay.settle) (Layout.start (Cursor.start text)) = some ((), l) →
      TokenStarts text l
  | next (n : Nat) {l l' : Layout} {c : Char} {cs : List Char} : TokenStarts text l →
      l.cursor.rest = c :: cs →
      (do Lay.token c cs; Lay.skipToToken n; Lay.settle) l = some ((), l') → TokenStarts text l'

/-- No block scalar goes on to the end of the text. -/
def BlockScalarsEnd (text : List Char) : Prop :=
  ∀ l, TokenStarts text l → l.inFlow = false → ∀ literal,
    l.cursor.rest.head? = some (if literal then '|' else '>') →
    ∀ l', Lay.blockScalar literal l = some ((), l') → l'.cursor.rest ≠ []

section Runs

variable {p : Padding}

/-- Where the text has ended the pieces are the same in the end. -/
theorem Done.last {l m : Layout} (h : Done p l m) (n k : Nat) :
    Follows (do Lay.settle; Lay.laid n) (do Lay.settle; Lay.laid k) l m
      fun _ l' _ m' => l'.pieces = m'.pieces := by
  intro a l' ha
  rcases hl : l.cursor.rest with _ | ⟨c, cs⟩
  · obtain ⟨l₁, hl₁, hrun⟩ := Lay.last_run hl n
    obtain ⟨m₁, hm₁, hrun'⟩ := Lay.last_run h.ended k
    obtain ⟨hmay, ha⟩ := Option.ite_none_right_eq_some.1 (hrun.symm.trans ha)
    cases ha
    refine ⟨(), m₁, ?_, hl₁.trans (h.ending.trans hm₁.symm)⟩
    rw [hrun', if_pos (h.mayEnd hmay)]
  · have hblank := h.blank c (hl ▸ List.mem_cons_self)
    cases (Lay.laid_blank n hl hblank).symm.trans ha

theorem length_of_atDocumentMark {c : Cursor} {mark : Char} (h : c.atDocumentMark mark = true) :
    3 ≤ c.rest.length := by
  unfold Cursor.atDocumentMark at h
  split at h
  next hrest => simp [hrest]
  · cases h

theorem lands_token {m : Layout} {c : Char} {r : List Char} (hm : m.cursor.rest <:+ p.text)
    (hr : m.cursor.rest = c :: r)
    (hcloses : m.inFlow = false → ∀ literal, c = (if literal then '|' else '>') →
      ∀ m', Lay.blockScalar literal m = some ((), m') → m'.cursor.rest = [] → p.trail = []) :
    Follows (Lay.token c (r ++ p.trail)) (Lay.token c r) (p.layout m) m
      (Lands p (m.cursor.rest.length - 1)) := by
  have hmark {mark : Char} (hmark : Json.isBlank mark = false) :
      (p.layout m).cursor.atDocumentMark mark = m.cursor.atDocumentMark mark :=
    atDocumentMark_eq (Padding.along_cursor hm) hmark
  have hmarked {t : Token} {mark : Char} (h : m.cursor.atDocumentMark mark = true) :
      Follows (Lay.documentMark t) (Lay.documentMark t) (p.layout m) m
        (Lands p (m.cursor.rest.length - 1)) :=
    (moved_documentMark hm t (length_of_atDocumentMark h)).mono fun _ _ _ _ => .inl
  refine follows_get ?_
  rw [hmark (by decide), hmark (by decide), Padding.layout_inFlow]
  refine .ite Iff.rfl (fun _ => lands_directive hm) fun _ => ?_
  refine .ite Iff.rfl hmarked fun hstart => .ite Iff.rfl hmarked fun hend => ?_
  exact lands_next hm hr ⟨by simpa using hstart, by simpa using hend⟩ hcloses

theorem Lands.done {n : Nat} {a b : Unit} {l m : Layout} (h : Lands p n a l b m)
    (hm : m.cursor.rest = []) : Done p l m := by
  obtain ⟨-, rfl, hwithin, -⟩ | h := h
  · exact .of_layout hwithin hm
  · exact h

theorem Lands.moved {n : Nat} {a b : Unit} {l m : Layout} (h : Lands p n a l b m)
    (hm : m.cursor.rest ≠ []) : Moved p n a l b m :=
  h.resolve_right fun h => hm h.ended

theorem Done.round {l m : Layout} (h : Done p l m) (a b n k : Nat) :
    Follows (do Lay.skipToToken a; Lay.settle; Lay.laid n)
      (do Lay.skipToToken b; Lay.settle; Lay.laid k) l m
      fun _ l' _ m' => l'.pieces = m'.pieces := by
  have hnil := Lay.skipToToken_nil b h.ended
  refine (h.follows (n := 0) (Lay.paces_skipToToken a) hnil).runs.bind fun _ l₁ _ m₁ hskip => ?_
  obtain ⟨hlands, -, hrun⟩ := hskip
  cases hnil.symm.trans hrun
  exact (hlands.done h.ended).last n k

theorem Even.settle : Even p Lay.settle :=
  Even.dropStalePlaces.bind fun _ => Even.column.bind fun _ => Even.closeBlocksAfter _

/-- The padded text is laid out in the pieces of the text. -/
theorem follows_rounds {n k a b : Nat} {m : Layout} (hm : m.cursor.rest <:+ p.text)
    (hends : p.trail = [] ∨ BlockScalarsEnd p.text)
    (hstarts : ∀ n l, (do Lay.skipToToken n; Lay.settle : Lay Unit) m = some ((), l) →
      TokenStarts p.text l)
    (ha : (p.layout m).cursor.rest.length < a) (hb : m.cursor.rest.length < b)
    (hn : (p.layout m).cursor.rest.length ≤ n) (hk : m.cursor.rest.length ≤ k) :
    Follows (do Lay.skipToToken a; Lay.settle; Lay.laid n)
      (do Lay.skipToToken b; Lay.settle; Lay.laid k) (p.layout m) m
      fun _ l' _ m' => l'.pieces = m'.pieces := by
  -- A round takes a token of the text, or the text has ended and one round is left.
  induction n using Nat.strong_induction_on generalizing k a b m with
  | _ n ih =>
    refine (Lay.lands_skipToToken hm ha hb).runs.bind fun _ l₁ _ m₁ hskip => ?_
    obtain ⟨hlands, -, hrun⟩ := hskip
    by_cases hy : m₁.cursor.rest = []
    · exact (hlands.done hy).last n k
    obtain ⟨-, rfl, hm₁, hle₁⟩ := hlands.moved hy
    refine (Even.settle m₁).runs.bind fun _ l₂ _ m₂ hsettle => ?_
    obtain ⟨⟨-, rfl, hcursor⟩, -, hrun'⟩ := hsettle
    have hstart : TokenStarts p.text m₂ :=
      hstarts b m₂ (Option.bind_eq_some_iff.2 ⟨(_, m₁), hrun, hrun'⟩)
    rw [← hcursor] at hm₁ hle₁ hy
    obtain ⟨c, r, hr⟩ := List.exists_cons_of_ne_nil hy
    have hl : (p.layout m₂).cursor.rest = c :: (r ++ p.trail) :=
      congrArg (· ++ p.trail) hr
    refine .congr_run (Lay.laid_cons n hl) (Lay.laid_cons k hr) ?_
    have hcloses (hflow : m₂.inFlow = false) (literal : Bool)
        (hc : c = if literal then '|' else '>') (m' : Layout) (hscalar : Lay.blockScalar literal m₂ = some ((), m'))
        (hended : m'.cursor.rest = []) : p.trail = [] :=
      hends.resolve_right fun hends =>
        hends m₂ hstart hflow literal (by rw [hr, hc]; rfl) m' hscalar hended
    refine (lands_token hm₁ hr hcloses).runs.bind fun _ l₃ _ m₃ htoken => ?_
    obtain ⟨hlands, -, hrun₃⟩ := htoken
    rcases n with _ | n
    · exact .of_fails rfl
    have hpos := List.length_pos_iff.2 hy
    obtain ⟨k, rfl⟩ : ∃ j, k = j + 1 := ⟨k - 1, by omega⟩
    rw [Lay.all_succ, Lay.all_succ]
    obtain ⟨-, rfl, hm₃, hle₃⟩ | hdone := hlands
    · rw [Padding.layout_length] at ha hn
      refine ih n (Nat.lt_succ_self n) hm₃ (fun j l hl => ?_) ?_ (by omega) ?_ (by omega)
      · exact .next j hstart hr (Option.bind_eq_some_iff.2 ⟨(_, m₃), hrun₃, hl⟩)
      · rw [Padding.layout_length]
        omega
      · rw [Padding.layout_length]
        omega
    · exact hdone.round _ _ n k

theorem follows_all (p : Padding) {a n : Nat} (hends : p.trail = [] ∨ BlockScalarsEnd p.text)
    (ha : p.text.length + p.trail.length < a) (hn : p.text.length + p.trail.length ≤ n) :
    Follows (do Lay.skipToToken a; Lay.settle; Lay.laid n) (Lay.all (p.text.length + 2))
      (.start ⟨p.text ++ p.trail, p.index, p.line, 0⟩) (.start (Cursor.start p.text))
      fun _ l' _ m' => l'.pieces = m'.pieces := by
  have hstart : Layout.start ⟨p.text ++ p.trail, p.index, p.line, 0⟩ =
      p.layout (.start (Cursor.start p.text)) := by
    simp [Padding.layout, Padding.cursor, Layout.start, Cursor.start]
  have hlength : (p.layout (.start (Cursor.start p.text))).cursor.rest.length =
      p.text.length + p.trail.length := List.length_append
  have hless : p.text.length < p.text.length + 2 := by omega
  rw [hstart, Lay.all_succ]
  exact follows_rounds (List.suffix_refl _) hends (fun n l hl => .first n hl) (hlength ▸ ha) hless
    (hlength ▸ hn) (Nat.le_succ _)

end Runs

/-! ## Block scalars -/

section TokenStarts

variable {text : List Char}

theorem settled_suffix {n : Nat} {l l' : Layout}
    (h : (do Lay.skipToToken n; Lay.settle : Lay Unit) l = some ((), l')) :
    l'.cursor.rest <:+ l.cursor.rest := by
  obtain ⟨⟨⟨⟩, l₁⟩, hskip, hsettle⟩ := Option.bind_eq_some_iff.1 h
  rw [Lay.settle_cursor hsettle]
  exact (Lay.paces_skipToToken n l () l₁ hskip).1.rest

/-- A text is padded with nothing. -/
def Padding.nothing (text : List Char) (hlast : ∀ c, text.getLast? = some c → isGap [c] = false) :
    Padding where
  text := text
  trail := []
  index := 0
  line := 0
  blank := nofun
  visible := hlast

theorem Padding.layout_nothing (hlast : ∀ c, text.getLast? = some c → isGap [c] = false)
    (m : Layout) : (Padding.nothing text hlast).layout m = m := by
  have hplace : (Padding.nothing text hlast).place = id := rfl
  have hcursor : (Padding.nothing text hlast).cursor m.cursor = m.cursor := by
    simp [Padding.cursor, Padding.nothing]
  simp [Padding.layout, hplace, hcursor]

theorem token_suffix (hlast : ∀ c, text.getLast? = some c → isGap [c] = false) {l l' : Layout}
    {c : Char} {cs : List Char} (hl : l.cursor.rest <:+ text) (hrest : l.cursor.rest = c :: cs)
    (h : Lay.token c cs l = some ((), l')) : l'.cursor.rest <:+ text := by
  have htrail : (Padding.nothing text hlast).trail = [] := rfl
  have htoken := lands_token (p := Padding.nothing text hlast) hl hrest fun _ _ _ _ _ _ => htrail
  rw [htrail, List.append_nil, Padding.layout_nothing] at htoken
  obtain ⟨⟨⟩, m, hm, hlands⟩ := htoken () l' h
  cases h.symm.trans hm
  obtain ⟨-, -, hsuffix, -⟩ | hdone := hlands
  · exact hsuffix
  · rw [hdone.ended]
    exact List.nil_suffix

theorem TokenStarts.suffix (hlast : ∀ c, text.getLast? = some c → isGap [c] = false) {l : Layout}
    (h : TokenStarts text l) : l.cursor.rest <:+ text := by
  induction h with
  | first n hrun => exact settled_suffix hrun
  | next n _ hrest hrun ih =>
    obtain ⟨⟨⟨⟩, l₁⟩, htoken, hsettled⟩ := Option.bind_eq_some_iff.1 hrun
    exact (settled_suffix hsettled).trans (token_suffix hlast ih hrest htoken)

/-- A text without the signs of block scalars has none that goes on to its end. -/
theorem BlockScalarsEnd.of_not_mem
    (hlast : ∀ c, text.getLast? = some c → isGap [c] = false) (hliteral : '|' ∉ text)
    (hfolded : '>' ∉ text) : BlockScalarsEnd text := by
  intro l hstart _ literal hhead
  have hmem := (hstart.suffix hlast).subset (List.mem_of_head? hhead)
  cases literal
  · exact absurd hmem hfolded
  · exact absurd hmem hliteral

theorem BlockScalarsEnd.nil : BlockScalarsEnd [] :=
  .of_not_mem (by rintro _ ⟨⟩) List.not_mem_nil List.not_mem_nil

end TokenStarts

/-! ## White space in front -/

/-- What ends with a line, if it is not empty. -/
def EndsLine (lead : List Char) : Prop := ∀ c, lead.getLast? = some c → c = '\n' ∨ c = '\r'

theorem EndsLine.nil : EndsLine [] := by
  rintro _ ⟨⟩

theorem EndsLine.of_suffix {lead lead' : List Char} (h : EndsLine lead) (hsuffix : lead' <:+ lead) :
    EndsLine lead' := by
  obtain ⟨pre, rfl⟩ := hsuffix
  intro c hc
  exact h c (by rw [List.getLast?_append, hc, Option.some_or])

namespace Lay

theorem takeWhile_spaces (k i line : Nat) {c : Char} {cs : List Char} (hspace : c ≠ ' ') :
    Scan.takeWhile (fun c => c = ' ' || (false && c = '\t'))
      ⟨List.replicate k ' ' ++ c :: cs, i, line, 0⟩ =
      some (List.replicate k ' ', ⟨c :: cs, i + k, line, k⟩) := by
  have hspaces : ∀ d ∈ List.replicate k ' ',
      ((decide (d = ' ') || (false && decide (d = '\t'))) && !isBreak d) = true := by
    intro d hd
    rw [(List.mem_replicate.1 hd).2]
    rfl
  have htaken : ((List.replicate k ' ' ++ c :: cs).takeWhile fun c =>
      (decide (c = ' ') || (false && decide (c = '\t'))) && !isBreak c) =
      List.replicate k ' ' := by
    rw [List.takeWhile_append_of_pos hspaces, List.takeWhile_cons_of_neg (by simp [hspace]),
      List.append_nil]
  simp only [Scan.takeWhile, htaken, Scan.skip]
  simp

/-- The blanks that a text begins with are gone over. -/
theorem skipToToken_spaces (n k i line : Nat) {c : Char} {cs : List Char}
    (hc : Json.isBlank c = true) (hspace : c ≠ ' ') :
    skipToToken (n + 1) (.start ⟨List.replicate k ' ' ++ c :: cs, i, line, 0⟩) =
      skipEnd false n (.start ⟨c :: cs, i + k, line, k⟩) := by
  have hbom : ¬ ((0 : Nat) = 0 ∧
      (List.replicate k ' ' ++ c :: cs).head? = some '\uFEFF') := by
    rintro ⟨-, h⟩
    cases k with
    | zero => exact ne_of_isBlank hc (by decide) (Option.some.inj h)
    | succ k => cases Option.some.inj h
  have htake : scanning (Scan.takeWhile fun c => c = ' ' || (false && c = '\t'))
      (.start ⟨List.replicate k ' ' ++ c :: cs, i, line, 0⟩) =
      some (List.replicate k ' ', .start ⟨c :: cs, i + k, line, k⟩) :=
    Option.map_eq_some_iff.2 ⟨_, takeWhile_spaces k i line hspace, rfl⟩
  rw [skipToToken_succ]
  change (ite ((0 : Nat) = 0 ∧ (List.replicate k ' ' ++ c :: cs).head? = some '\uFEFF') _
    (skipBlanks false false n) : Lay Unit) _ = _
  rw [if_neg hbom]
  change (scanning (Scan.takeWhile _) _).bind (fun q => skipComment false n q.2) = _
  rw [htake]
  change (ite (some c = some '#') _ (skipEnd false n) : Lay Unit) _ = _
  rw [if_neg fun h => ne_of_isBlank hc (by decide) (Option.some.inj h)]

theorem skipEnd_return (n i line column : Nat) {cs : List Char} (hcs : cs.head? ≠ some '\n') :
    skipEnd false n (.start ⟨'\r' :: cs, i, line, column⟩) =
      skipToToken n (.start ⟨cs, i + 1, line + 1, 0⟩) := by
  have hbreak : scanning Scan.lineBreak (.start ⟨'\r' :: cs, i, line, column⟩) =
      some ('\n', .start ⟨cs, i + 1, line + 1, 0⟩) := by
    unfold scanning
    rw [lineBreak_eq rfl, if_neg fun h => hcs h.2]
    rfl
  change (scanning Scan.lineBreak _).bind
    (fun q => (allowKey true >>= fun _ => skipToToken n : Lay Unit) q.2) = _
  rw [hbreak]
  rfl

/-- A line that ends is spaces up to something else. -/
theorem exists_spaces {lead : List Char} (hne : lead ≠ []) (hends : EndsLine lead) :
    ∃ k c lead', lead = List.replicate k ' ' ++ c :: lead' ∧ c ≠ ' ' := by
  rcases hdrop : lead.dropWhile (· = ' ') with _ | ⟨c, lead'⟩
  · have hspaces := List.dropWhile_eq_nil_iff.1 hdrop (lead.getLast hne) (List.getLast_mem hne)
    have hlast := hends _ (List.getLast?_eq_some_getLast hne)
    rw [of_decide_eq_true hspaces] at hlast
    cases hlast <;> contradiction
  · refine ⟨(lead.takeWhile (· = ' ')).length, c, lead', ?_, ?_⟩
    · rw [← List.eq_replicate_of_mem fun d hd => by simpa using List.mem_takeWhile_imp hd, ← hdrop,
        List.takeWhile_append_dropWhile]
    · have hhead := List.head?_dropWhile_not (fun c => decide (c = ' ')) lead
      rw [hdrop] at hhead
      simpa using hhead

/-- The blanks of a line are gone over with its break, unless a tab stops it. -/
theorem skipToToken_line (n i line : Nat) {lead r : List Char}
    (hlead : ∀ c ∈ lead, Json.isBlank c = true) (hne : lead ≠ []) (hends : EndsLine lead)
    (hr : r.head? ≠ some '\n') :
    (∃ l, skipToToken (n + 1) (.start ⟨lead ++ r, i, line, 0⟩) = some ((), l) ∧
      ∃ cs, l.cursor.rest = '\t' :: cs) ∨
    ∃ lead' i' line', lead'.length < lead.length ∧ (∀ c ∈ lead', Json.isBlank c = true) ∧
      EndsLine lead' ∧ skipToToken (n + 1) (.start ⟨lead ++ r, i, line, 0⟩) =
        skipToToken n (.start ⟨lead' ++ r, i', line', 0⟩) := by
  obtain ⟨k, c, lead', rfl, hspace⟩ := exists_spaces hne hends
  have hc := hlead c (by simp)
  have hlead' : ∀ c ∈ lead', Json.isBlank c = true := fun d hd => hlead d (by simp [hd])
  have hends' : EndsLine lead' := hends.of_suffix ⟨List.replicate k ' ' ++ [c], by simp⟩
  rw [List.append_assoc, List.cons_append, skipToToken_spaces n k i line hc hspace]
  obtain rfl | rfl | rfl | rfl := cases_of_isBlank hc
  · exact absurd rfl hspace
  · exact .inr ⟨lead', _, _, by simp; omega, hlead', hends', rfl⟩
  · exact .inl ⟨_, rfl, _, rfl⟩
  · by_cases hpair : lead'.head? = some '\n'
    · obtain ⟨lead'', rfl⟩ := List.head?_eq_some_iff.1 hpair
      exact .inr ⟨lead'', _, _, by simp; omega, fun d hd => hlead' d (by simp [hd]),
        hends'.of_suffix (List.suffix_cons _ _), rfl⟩
    · refine .inr ⟨lead', _, _, by simp; omega, hlead', hends', skipEnd_return n _ _ _ ?_⟩
      rcases lead' with _ | ⟨d, lead'⟩
      · exact hr
      · exact hpair

theorem skipToToken_lead (n i line : Nat) {lead r : List Char}
    (hlead : ∀ c ∈ lead, Json.isBlank c = true) (hends : EndsLine lead)
    (hr : lead ≠ [] → r.head? ≠ some '\n') (hn : lead.length < n) :
    (∃ l, skipToToken n (.start ⟨lead ++ r, i, line, 0⟩) = some ((), l) ∧
      ∃ cs, l.cursor.rest = '\t' :: cs) ∨
    ∃ i' line' n', n ≤ n' + lead.length ∧ skipToToken n (.start ⟨lead ++ r, i, line, 0⟩) =
      skipToToken n' (.start ⟨r, i', line', 0⟩) := by
  induction n generalizing i line lead with
  | zero => cases hn
  | succ n ih =>
    by_cases hne : lead = []
    · subst hne
      exact .inr ⟨i, line, n + 1, le_rfl, rfl⟩
    obtain htab | ⟨lead', i', line', hlt, hlead', hends', hrun⟩ :=
      skipToToken_line n i line hlead hne hends (hr hne)
    · exact .inl htab
    · rw [hrun]
      refine (ih i' line' hlead' hends' (fun _ => hr hne) (by omega)).imp_right fun h => ?_
      obtain ⟨i'', line'', n', hle, hrun'⟩ := h
      exact ⟨i'', line'', n', by omega, hrun'⟩

end Lay

theorem tokens?_eq_some {text : List Char} {ts : List Token} : tokens? text = some ts ↔
    text.all isAllowed = true ∧ ∃ l, Lay.all (text.length + 2) (.start (Cursor.start text)) =
        some ((), l) ∧ l.tokens = ts := by
  unfold tokens?
  by_cases hallowed : text.all isAllowed = true
  · rw [guard_pos hallowed]
    change (Lay.all (text.length + 2) _).bind _ = _ ↔ _
    rw [Option.bind_eq_some_iff]
    constructor
    · rintro ⟨⟨⟨⟩, l⟩, hall, hts⟩
      exact ⟨hallowed, l, hall, Option.some.inj hts⟩
    · rintro ⟨-, l, hall, rfl⟩
      exact ⟨((), l), hall, rfl⟩
  · rw [guard_neg hallowed]
    exact ⟨nofun, fun h => absurd h.1 hallowed⟩

/-- A text with white space around it is laid out in the tokens of the text. -/
theorem tokens?_of_surrounded {lead text trail : List Char} {ts : List Token}
    (hlead : ∀ c ∈ lead, Json.isBlank c = true) (htrail : ∀ c ∈ trail, Json.isBlank c = true)
    (hends : EndsLine lead) (hfirst : lead ≠ [] → (text ++ trail).head? ≠ some '\n')
    (hlast : ∀ c, text.getLast? = some c → isGap [c] = false)
    (hclose : trail = [] ∨ BlockScalarsEnd text)
    (h : tokens? (lead ++ (text ++ trail)) = some ts) : tokens? text = some ts := by
  obtain ⟨hallowed, l, hall, rfl⟩ := tokens?_eq_some.1 h
  have hallowed' : text.all isAllowed = true := by
    rw [List.all_eq_true] at hallowed ⊢
    exact fun c hc => hallowed c (by simp [hc])
  rw [Lay.all_succ] at hall
  obtain ⟨⟨⟨⟩, l₁⟩, hskip, hlaid⟩ := Option.bind_eq_some_iff.1 hall
  obtain ⟨l₂, hskip', cs, hcs⟩ | ⟨i, line, n, hn, hskip'⟩ :=
    Lay.skipToToken_lead ((lead ++ (text ++ trail)).length + 2) 0 0 hlead hends hfirst
      (by rw [List.length_append]; omega)
  · -- A tab in front of the first line is not gone over.
    cases hskip.symm.trans hskip'
    cases (Lay.laid_blank _ hcs (by decide)).symm.trans hlaid
  · let p : Padding :=
      { text := text, trail := trail, index := i, line := line, blank := htrail, visible := hlast }
    have htotal : (lead ++ (text ++ trail)).length =
        lead.length + (text.length + trail.length) := by simp
    have hskipped : text.length + trail.length < n := by omega
    have hrounds : text.length + trail.length ≤ (lead ++ (text ++ trail)).length + 1 := by omega
    obtain ⟨⟨⟩, m, hrun, hpieces⟩ := follows_all p hclose hskipped hrounds () l
      (Option.bind_eq_some_iff.2 ⟨_, hskip'.symm.trans hskip, hlaid⟩)
    refine tokens?_eq_some.2 ⟨hallowed', m, hrun, ?_⟩
    rw [Layout.tokens, ← hpieces]
    rfl

/-- A text holds the document that it holds with white space around it. -/
theorem parse?_of_surrounded {lead text trail : List Char} {v : Json}
    (hlead : ∀ c ∈ lead, Json.isBlank c = true) (htrail : ∀ c ∈ trail, Json.isBlank c = true)
    (hends : EndsLine lead) (hfirst : lead ≠ [] → (text ++ trail).head? ≠ some '\n')
    (hlast : ∀ c, text.getLast? = some c → isGap [c] = false)
    (hclose : trail = [] ∨ BlockScalarsEnd text)
    (h : parse? (String.ofList (lead ++ (text ++ trail))) = some v) :
    parse? (String.ofList text) = some v := by
  unfold parse? at h ⊢
  rw [String.toList_ofList] at h ⊢
  obtain ⟨ts, htokens, h⟩ := Option.bind_eq_some_iff.1 h
  rw [tokens?_of_surrounded hlead htrail hends hfirst hlast hclose htokens]
  exact h

end JsonTypes.Yaml
