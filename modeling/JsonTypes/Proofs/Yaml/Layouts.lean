import JsonTypes.Proofs.Yaml.Block
import JsonTypes.Proofs.Yaml.Plain
import JsonTypes.Proofs.Yaml.Tags

/-!
# The layout of a padded text

The places that a layout remembers are moved by the white space in front of the text, and nothing
else is. So a step that lays out a token does the same, and leaves layouts that are moved again.
-/

namespace JsonTypes.Yaml

/-! ## Moved layouts -/

namespace Padding

variable (p : Padding)

def cursor (c : Cursor) : Cursor :=
  ⟨c.rest ++ p.trail, c.index + p.index, c.line + p.line, c.column⟩

def place (k : KeyPlace) : KeyPlace :=
  { k with index := k.index + p.index, line := k.line + p.line }

/-- The layout of the padded text where that of the text is such. -/
def layout (l : Layout) : Layout :=
  { l with
    cursor := p.cursor l.cursor
    keyPlace := l.keyPlace.map p.place
    outerPlaces := l.outerPlaces.map (·.map p.place) }

variable {p}

theorem along_cursor {c : Cursor} (h : c.rest <:+ p.text) : Along p (p.cursor c) c :=
  ⟨rfl, rfl, rfl, rfl, h⟩

theorem eq_of_along {x y : Cursor} (h : Along p x y) : x = p.cursor y := by
  rcases x with ⟨rest, index, line, column⟩
  obtain ⟨rfl, rfl, rfl, rfl, -⟩ := h
  rfl

variable {l : Layout}

@[simp] theorem layout_inFlow : (p.layout l).inFlow = l.inFlow := by
  simp [Layout.inFlow, layout]

@[simp] theorem layout_columns : (p.layout l).columns = l.columns := rfl

@[simp] theorem layout_leastColumn : (p.layout l).leastColumn = l.leastColumn := rfl

theorem layout_length :
    (p.layout l).cursor.rest.length = l.cursor.rest.length + p.trail.length :=
  List.length_append

@[simp] theorem any_place (is : Option KeyPlace) :
    (is.map p.place).any (·.required) = is.any (·.required) := by
  cases is <;> rfl

end Padding

/-! ## Places that are too far back -/

/-- A place, unless it is too far back. -/
def kept (c : Cursor) (k : Option KeyPlace) : Option KeyPlace :=
  if k.any (Lay.isStale c) then none else k

/-- Whether a place that has to be a key is not too far back. -/
def isFresh (c : Cursor) (k : Option KeyPlace) : Bool :=
  !(k.any (Lay.isStale c) && k.any (·.required))

namespace Layout

def fresh (l : Layout) : Bool := (l.keyPlace :: l.outerPlaces).all (isFresh l.cursor)

def dropStale (l : Layout) : Layout :=
  { l with keyPlace := kept l.cursor l.keyPlace, outerPlaces := l.outerPlaces.map (kept l.cursor) }

end Layout

theorem dropStalePlaces_eq : Lay.dropStalePlaces =
    (do let l ← get; guard l.fresh; set l.dropStale) := rfl

section Stale

variable {p : Padding} (c : Cursor)

theorem any_isStale (k : Option KeyPlace) :
    (k.map p.place).any (Lay.isStale (p.cursor c)) = k.any (Lay.isStale c) := by
  cases k with
  | none => rfl
  | some k =>
    simp only [Option.map_some, Option.any_some, Lay.isStale, Padding.cursor, Padding.place]
    congr 1 <;> exact decide_eq_decide.2 (by omega)

theorem kept_place (k : Option KeyPlace) :
    kept (p.cursor c) (k.map p.place) = (kept c k).map p.place := by
  rw [kept, kept, any_isStale]
  split <;> rfl

theorem isFresh_place (k : Option KeyPlace) :
    isFresh (p.cursor c) (k.map p.place) = isFresh c k := by
  rw [isFresh, isFresh, any_isStale, Padding.any_place]

theorem fresh_layout (m : Layout) : (p.layout m).fresh = m.fresh := by
  simp [Layout.fresh, Padding.layout, isFresh_place, Function.comp_def]

theorem dropStale_layout (m : Layout) : (p.layout m).dropStale = p.layout m.dropStale := by
  simp [Layout.dropStale, Padding.layout, kept_place, Function.comp_def]

end Stale

/-! ## Steps side by side -/

/-- The same values and moved layouts, with so many characters left at most. -/
def Moved {α : Type} (p : Padding) (n : Nat) (a : α) (l : Layout) (b : α) (m : Layout) : Prop :=
  a = b ∧ l = p.layout m ∧ m.cursor.rest <:+ p.text ∧ m.cursor.rest.length ≤ n

/-- What does the same with a moved layout, and takes nothing. -/
def Even {α : Type} (p : Padding) (f : Lay α) : Prop :=
  ∀ m : Layout, Follows f f (p.layout m) m fun a l b m' =>
    a = b ∧ l = p.layout m' ∧ m'.cursor = m.cursor

section Rules

variable {p : Padding} {l m : Layout} {α β : Type} {n : Nat}

theorem follows_get {σ τ γ : Type} {F : σ → StateT σ Option α} {G : τ → StateT τ Option γ} {x : σ}
    {y : τ} {Q : α → σ → γ → τ → Prop} (h : Follows (F x) (G y) x y Q) :
    Follows (get >>= F) (get >>= G) x y Q := h

namespace Even

protected theorem pure (a : α) : Even p (pure a) := fun _ => .pure ⟨rfl, rfl, rfl⟩

theorem failure : Even p (failure : Lay α) := fun _ => .of_fails rfl

protected theorem bind {f : Lay α} {F : α → Lay β} (h : Even p f) (hnext : ∀ a, Even p (F a)) :
    Even p (f >>= F) := fun m => by
  refine (h m).bind fun a l b m' hQ => ?_
  obtain ⟨rfl, rfl, hcursor⟩ := hQ
  exact (hnext a m').mono fun _ _ _ _ hQ => ⟨hQ.1, hQ.2.1, hQ.2.2.trans hcursor⟩

theorem ite {q : Prop} [Decidable q] {f g : Lay α} (hf : Even p f) (hg : Even p g) :
    Even p (if q then f else g) := by
  split
  · exact hf
  · exact hg

theorem guarded (q : Prop) [Decidable q] : Even p (guard q : Lay Unit) := ite (.pure ()) failure

/-- What looks only at what is the same. -/
theorem get {F : Layout → Lay α} (hnext : ∀ m, F (p.layout m) = F m)
    (h : ∀ m, Even p (F m)) : Even p (get >>= F) := fun m => by
  change Follows (F (p.layout m)) (F m) (p.layout m) m _
  rw [hnext]
  exact h m m

theorem modify {f : Layout → Layout} (h : ∀ m, f (p.layout m) = p.layout (f m))
    (hcursor : ∀ m, (f m).cursor = m.cursor) : Even p (modify f) := fun m => by
  rintro _ _ ⟨⟩
  exact ⟨(), f m, rfl, rfl, h m, hcursor m⟩

theorem put (t : Token) : Even p (Lay.put t) := modify (fun _ => rfl) fun _ => rfl

theorem allowKey (allowed : Bool) : Even p (Lay.allowKey allowed) :=
  modify (fun _ => rfl) fun _ => rfl

theorem dropKeyPlace : Even p Lay.dropKeyPlace := by
  refine get (fun m => ?_) fun m => (guarded _).bind fun _ => modify (fun _ => rfl) fun _ => rfl
  have hplace : (p.layout m).keyPlace.any (·.required) = m.keyPlace.any (·.required) :=
    p.any_place m.keyPlace
  rw [hplace]

theorem markKeyPlace : Even p Lay.markKeyPlace := by
  refine get (fun m => rfl) fun m => .ite (dropKeyPlace.bind fun _ => modify (fun m => ?_)
    fun _ => rfl) (.pure ())
  simp only [Padding.layout_inFlow]
  rfl

theorem dropStalePlaces : Even p Lay.dropStalePlaces := fun m => by
  rw [dropStalePlaces_eq]
  refine follows_get (.guard_bind (fun hfresh => fresh_layout m ▸ hfresh) fun _ => ?_)
  rintro _ _ ⟨⟩
  exact ⟨(), m.dropStale, rfl, rfl, dropStale_layout m, rfl⟩

theorem openBlock (t : Token) (column : Nat) : Even p (Lay.openBlock t column) := fun m => by
  refine follows_get (.ite ?_ (fun _ => ?_) fun _ => .pure ⟨rfl, rfl, rfl⟩)
  · rw [Padding.layout_inFlow, Padding.layout_leastColumn]
  · exact (put t { m with columns := column :: m.columns })

theorem closeBlocks (column : Nat) : ∀ columns, Even p (Lay.closeBlocks column columns)
  | [] => .pure ()
  | _ :: outer => .ite ((modify (f := fun l => { l with columns := outer }) (fun _ => rfl)
      fun _ => rfl).bind fun _ => (put .blockEnd).bind fun _ => closeBlocks column outer) (.pure ())

theorem closeBlocksAfter (column : Nat) : Even p (Lay.closeBlocksAfter column) := by
  refine get (fun m => ?_) fun m => .ite (.pure ()) (closeBlocks column m.columns)
  rw [Padding.layout_inFlow, Padding.layout_columns]

theorem closeAllBlocks : ∀ columns, Even p (Lay.closeAllBlocks columns)
  | [] => modify (f := fun l => { l with columns := [] }) (fun _ => rfl) fun _ => rfl
  | _ :: outer => (put .blockEnd).bind fun _ => closeAllBlocks outer

theorem leaveDocument : Even p Lay.leaveDocument := by
  refine get (fun m => ?_) fun m => ?_
  · rw [Padding.layout_inFlow, Padding.layout_columns]
  · have hend : Even p (Lay.dropKeyPlace >>= fun _ => Lay.allowKey false) :=
      dropKeyPlace.bind fun _ => allowKey false
    exact .ite hend ((closeAllBlocks m.columns).bind fun _ => hend)

theorem inFlow : Even p Lay.inFlow := get (fun _ => by simp) fun _ => .pure _

theorem column : Even p Lay.column := get (fun _ => rfl) fun _ => .pure _

theorem openBlockHere (t : Token) : Even p (Lay.openBlockHere t) := by
  refine inFlow.bind fun flow => .ite (.pure ()) (get (fun _ => rfl) fun m => ?_)
  exact (guarded _).bind fun _ => column.bind fun _ => openBlock t _

theorem keyBefore (k : KeyPlace) (m : Layout) :
    Follows (Lay.keyBefore (p.place k)) (Lay.keyBefore k) (p.layout m) m fun a l b m' =>
      a = b ∧ l = p.layout m' ∧ m'.cursor = m.cursor := by
  rintro _ _ ⟨⟩
  refine ⟨(), _, rfl, rfl, ?_, rfl⟩
  simp only [Padding.layout_inFlow, Padding.layout_leastColumn]
  rfl

end Even

/-! ## Scans in a layout -/

theorem Moved.mono {a b : α} {k : Nat} (h : Moved p n a l b m) (hnk : n ≤ k) : Moved p k a l b m :=
  ⟨h.1, h.2.1, h.2.2.1, Nat.le_trans h.2.2.2 hnk⟩

theorem moved_pure (a : α) (hm : m.cursor.rest <:+ p.text) (hn : m.cursor.rest.length ≤ n) :
    Follows (pure a) (pure a) (p.layout m) m (Moved p n) :=
  .pure ⟨rfl, rfl, hm, hn⟩

/-- The rule for a step that keeps to the text, followed by another. -/
theorem Follows.thenMoved {f g : Lay α} {F G : α → Lay β} {Q : β → Layout → β → Layout → Prop}
    (h : Follows f g l m (Moved p n))
    (hnext : ∀ a m', m'.cursor.rest <:+ p.text → m'.cursor.rest.length ≤ n →
      Follows (F a) (G a) (p.layout m') m' Q) :
    Follows (f >>= F) (g >>= G) l m Q := by
  refine h.bind fun a l' b m' hmoved => ?_
  obtain ⟨rfl, rfl, hm, hle⟩ := hmoved
  exact hnext a m' hm hle

/-- The rule for a step that takes nothing, followed by another. -/
theorem Even.then {f : Lay α} {F G : α → Lay β} {Q : β → Layout → β → Layout → Prop} (h : Even p f)
    (hnext : ∀ a m', m'.cursor = m.cursor → Follows (F a) (G a) (p.layout m') m' Q) :
    Follows (f >>= F) (f >>= G) (p.layout m) m Q := by
  refine (h m).bind fun a l' b m' heven => ?_
  obtain ⟨rfl, rfl, hcursor⟩ := heven
  exact hnext a m' hcursor

theorem follows_scanning {γ : Type} {s : Scan α} {t : Scan γ} {Q : α → Cursor → γ → Cursor → Prop}
    (h : Follows s t l.cursor m.cursor Q) :
    Follows (Lay.scanning s) (Lay.scanning t) l m fun a l' b m' =>
      Q a l'.cursor b m'.cursor ∧ l' = { l with cursor := l'.cursor } ∧
        m' = { m with cursor := m'.cursor } := by
  intro a l' ha
  obtain ⟨⟨a, x'⟩, hs, hl⟩ := Option.map_eq_some_iff.1 ha
  cases hl
  obtain ⟨b, y', hb, hQ⟩ := h a x' hs
  exact ⟨b, { m with cursor := y' }, Option.map_eq_some_iff.2 ⟨(b, y'), hb, rfl⟩, hQ, rfl, rfl⟩

theorem layout_of_along {l' m' : Layout} (h : Along p l'.cursor m'.cursor)
    (hl : l' = { p.layout m with cursor := l'.cursor })
    (hm : m' = { m with cursor := m'.cursor }) : l' = p.layout m' := by
  rw [hl, hm, Padding.eq_of_along h]
  rfl

theorem moved_scanning {s : Scan α} (h : Follows s s (p.cursor m.cursor) m.cursor (Keeps p n)) :
    Follows (Lay.scanning s) (Lay.scanning s) (p.layout m) m (Moved p n) := by
  refine (follows_scanning h).mono fun a l' b m' hQ => ?_
  obtain ⟨⟨rfl, halong, hle⟩, hl, hm⟩ := hQ
  exact ⟨rfl, layout_of_along halong hl hm, halong.within, hle⟩

theorem moved_skip (hm : m.cursor.rest <:+ p.text) {k : Nat} (hk : k ≤ m.cursor.rest.length) :
    Follows (Lay.skip k) (Lay.skip k) (p.layout m) m (Moved p (m.cursor.rest.length - k)) :=
  moved_scanning (follows_skip (Padding.along_cursor hm) hk)

theorem Even.moved {f : Lay α} (h : Even p f) (hm : m.cursor.rest <:+ p.text)
    (hn : m.cursor.rest.length ≤ n) : Follows f f (p.layout m) m (Moved p n) :=
  (h m).mono fun _ _ _ m' heven => by
    have hcursor : m'.cursor = m.cursor := heven.2.2
    exact ⟨heven.1, heven.2.1, hcursor ▸ hm, hcursor ▸ hn⟩

/-- An indicator with its token. -/
theorem moved_indicator {m' : Layout} (hcursor : m'.cursor = m.cursor) (t : Token)
    (hm : m.cursor.rest <:+ p.text) (hne : m.cursor.rest ≠ []) :
    Follows (do Lay.skip 1; Lay.put t) (do Lay.skip 1; Lay.put t) (p.layout m') m'
      (Moved p (m.cursor.rest.length - 1)) := by
  rw [← hcursor] at hm hne ⊢
  exact (moved_skip hm (List.length_pos_iff.2 hne)).thenMoved fun _ _ hm'' hle =>
    (Even.put t).moved hm'' hle

end Rules

/-! ## The end of the text -/

/-- Layouts where the text has ended, which are the same but for the places. -/
structure Done (p : Padding) (l m : Layout) : Prop where
  ended : m.cursor.rest = []
  blank : ∀ c ∈ l.cursor.rest, Json.isBlank c = true
  index : m.cursor.index + p.index ≤ l.cursor.index
  line : m.cursor.line + p.line ≤ l.cursor.line
  pieces : l.pieces = m.pieces
  columns : l.columns = m.columns
  keyPlace : l.keyPlace = m.keyPlace.map p.place
  outerPlaces : l.outerPlaces = m.outerPlaces.map (·.map p.place)

/-- The layouts are moved, or the text has ended. -/
def Lands (p : Padding) (n : Nat) (_ : Unit) (l : Layout) (_ : Unit) (m : Layout) : Prop :=
  Moved p n () l () m ∨ Done p l m

section Done

variable {p : Padding} {l m : Layout}

theorem Lands.mono {n k : Nat} {a b : Unit} (h : Lands p n a l b m) (hnk : n ≤ k) :
    Lands p k a l b m :=
  h.imp_left (·.mono hnk)

theorem Done.of_past {x y : Cursor} (h : Past p x y) :
    Done p { p.layout m with cursor := x } { m with cursor := y } :=
  ⟨h.ended, h.blank, h.index, h.line, rfl, rfl, rfl, rfl⟩

theorem Done.put (h : Done p l m) (t : Token) :
    Done p { l with pieces := l.pieces.push ⟨[], t⟩ } { m with pieces := m.pieces.push ⟨[], t⟩ } :=
  { h with pieces := by simp [h.pieces] }

end Done

/-! ## Tokens -/

section Tokens

/-- Behind a closing bracket the place in front of its brackets counts again. -/
def Layout.leaveFlow (l : Layout) : Layout :=
  match l.outerPlaces with
  | [] => l
  | place :: outer => { l with keyPlace := place, outerPlaces := outer }

variable {p : Padding} {m : Layout} (hm : m.cursor.rest <:+ p.text) (hne : m.cursor.rest ≠ [])
include hm hne

theorem moved_flowStart (t : Token) : Follows (Lay.flowStart t) (Lay.flowStart t) (p.layout m) m
    (Moved p (m.cursor.rest.length - 1)) := by
  have hopen : Even p (modify fun l : Layout =>
      { l with outerPlaces := l.keyPlace :: l.outerPlaces, keyPlace := none }) :=
    .modify (fun _ => rfl) fun _ => rfl
  refine Even.markKeyPlace.then fun _ _ h₁ => hopen.then fun _ _ h₂ =>
    (Even.allowKey true).then fun _ _ h₃ => ?_
  exact moved_indicator (h₃.trans (h₂.trans h₁)) t hm hne

theorem moved_flowEnd (t : Token) : Follows (Lay.flowEnd t) (Lay.flowEnd t) (p.layout m) m
    (Moved p (m.cursor.rest.length - 1)) := by
  have hclose : Even p (modify Layout.leaveFlow) := by
    refine .modify (fun m => ?_) fun m => ?_
    · rcases m with ⟨_, _, _, _, _ | ⟨_, _⟩, _⟩ <;> rfl
    · rcases m with ⟨_, _, _, _, _ | ⟨_, _⟩, _⟩ <;> rfl
  refine Even.dropKeyPlace.then fun _ _ h₁ => hclose.then fun _ _ h₂ =>
    (Even.allowKey false).then fun _ _ h₃ => ?_
  exact moved_indicator (h₃.trans (h₂.trans h₁)) t hm hne

theorem moved_flowEntry : Follows Lay.flowEntry Lay.flowEntry (p.layout m) m
    (Moved p (m.cursor.rest.length - 1)) :=
  Even.dropKeyPlace.then fun _ _ h₁ => (Even.allowKey true).then fun _ _ h₂ =>
    moved_indicator (h₂.trans h₁) .flowEntry hm hne

theorem moved_blockEntry : Follows Lay.blockEntry Lay.blockEntry (p.layout m) m
    (Moved p (m.cursor.rest.length - 1)) :=
  (Even.openBlockHere _).then fun _ _ h₁ => Even.dropKeyPlace.then fun _ _ h₂ =>
    (Even.allowKey true).then fun _ _ h₃ =>
      moved_indicator (h₃.trans (h₂.trans h₁)) .blockEntry hm hne

theorem moved_key : Follows Lay.key Lay.key (p.layout m) m
    (Moved p (m.cursor.rest.length - 1)) :=
  (Even.openBlockHere _).then fun _ _ h₁ => Even.dropKeyPlace.then fun _ _ h₂ =>
    Even.inFlow.then fun _ _ h₃ => (Even.allowKey _).then fun _ _ h₄ =>
      moved_indicator (h₄.trans (h₃.trans (h₂.trans h₁))) .key hm hne

theorem moved_value : Follows Lay.value Lay.value (p.layout m) m
    (Moved p (m.cursor.rest.length - 1)) := by
  refine follows_get ?_
  have hplace : (p.layout m).keyPlace = m.keyPlace.map p.place := rfl
  rw [hplace]
  rcases m.keyPlace with _ | k
  · exact (Even.openBlockHere _).then fun _ _ h₁ => Even.inFlow.then fun _ _ h₂ =>
      (Even.allowKey _).then fun _ _ h₃ =>
        moved_indicator (h₃.trans (h₂.trans h₁)) .value hm hne
  · refine (Even.keyBefore k m).bind fun _ _ _ m₁ hkey => ?_
    obtain ⟨-, rfl, h₁⟩ := hkey
    exact (Even.allowKey false).then fun _ _ h₂ => moved_indicator (h₂.trans h₁) .value hm hne

theorem moved_keyable {scan : Scan Token}
    (hscan : ∀ x y, Along p x y → y.rest ≠ [] →
      Follows scan scan x y (Keeps p (y.rest.length - 1))) :
    Follows (Lay.keyable scan) (Lay.keyable scan) (p.layout m) m
      (Moved p (m.cursor.rest.length - 1)) := by
  refine Even.markKeyPlace.then fun _ _ h₁ => (Even.allowKey false).then fun _ m₂ h₂ => ?_
  have hcursor : m₂.cursor = m.cursor := h₂.trans h₁
  rw [← hcursor] at hm hne ⊢
  exact (moved_scanning (hscan _ _ (Padding.along_cursor hm) hne)).thenMoved fun t _ hm' hle =>
    (Even.put t).moved hm' hle

omit hne in
theorem moved_documentMark (t : Token) (hlength : 3 ≤ m.cursor.rest.length) :
    Follows (Lay.documentMark t) (Lay.documentMark t) (p.layout m) m
      (Moved p (m.cursor.rest.length - 1)) := by
  refine Even.leaveDocument.then fun _ _ h₁ => ?_
  rw [← h₁] at hm hlength ⊢
  exact (moved_skip hm hlength).thenMoved fun _ _ hm' hle =>
    (Even.put t).moved hm' (by omega)

omit hm hne in
/-- After a plain scalar a key may start on the next line. -/
theorem lands_putPlain {l : Layout} {n : Nat} {r r' : Plain.Result} (htext : r.text = r'.text)
    (h : r.broken = r'.broken ∧ Moved p n () l () m ∨ Done p l m) :
    Follows (do Lay.put (.scalar (String.ofList r.text) true); if r.broken then Lay.allowKey true)
      (do Lay.put (.scalar (String.ofList r'.text) true); if r'.broken then Lay.allowKey true)
      l m (Lands p n) := by
  rw [htext]
  rcases h with ⟨hbroken, -, rfl, hm, hle⟩ | h
  · rw [hbroken]
    refine (Even.moved ((Even.put _).bind fun _ => ?_) hm hle).mono fun _ _ _ _ => .inl
    exact .ite (.allowKey true) (.pure ())
  · have hput := h.put (.scalar (String.ofList r'.text) true)
    rcases r with ⟨_, _ | _⟩ <;> rcases r' with ⟨_, _ | _⟩ <;> rintro _ _ ⟨⟩ <;>
      exact ⟨(), _, rfl, .inr { hput with }⟩

omit hne in
theorem lands_plainScalar
    (htakes : ∀ inFlow column, Takes (Plain.scan inFlow column) m.cursor) :
    Follows Lay.plainScalar Lay.plainScalar (p.layout m) m
      (Lands p (m.cursor.rest.length - 1)) := by
  refine Even.markKeyPlace.then fun _ _ h₁ => (Even.allowKey false).then fun _ m₂ h₂ => ?_
  have hcursor : m₂.cursor = m.cursor := h₂.trans h₁
  rw [← hcursor] at hm htakes ⊢
  refine follows_get ?_
  rw [Padding.layout_inFlow, Padding.layout_leastColumn]
  refine (follows_scanning (Plain.follows_scan_of_takes (Padding.along_cursor hm)
    (htakes _ _))).bind fun r l' r' m' hscan => ?_
  obtain ⟨⟨htext, hnears⟩, hl, hm'⟩ := hscan
  refine lands_putPlain htext ?_
  rcases hnears with ⟨hbroken, halong, hle⟩ | hpast
  · exact .inl ⟨hbroken, rfl, layout_of_along halong hl hm', halong.within, hle⟩
  · rw [hl, hm']
    exact .inr (.of_past hpast)

omit hne in
theorem lands_directive : Follows Lay.directive Lay.directive (p.layout m) m
    (Lands p (m.cursor.rest.length - 1)) := by
  refine Even.leaveDocument.then fun _ m₁ h₁ => ?_
  rw [← h₁] at hm ⊢
  refine (follows_scanning (Directive.follows_scan (Padding.along_cursor hm))).bind
    fun d l' d' m' hscan => ?_
  obtain ⟨⟨rfl, hnear, hle⟩, hl, hm'⟩ := hscan
  rcases hnear with halong | hpast
  · rw [layout_of_along halong hl hm']
    exact ((Even.put _).moved halong.within hle).mono fun _ _ _ _ => .inl
  · rintro _ _ ⟨⟩
    refine ⟨(), _, rfl, .inr ?_⟩
    rw [hl, hm']
    exact (Done.of_past hpast).put _

/-- A block scalar that ends with the text may go on behind it. -/
theorem moved_blockScalar (literal : Bool)
    (hcloses : ∀ m', Lay.blockScalar literal m = some ((), m') → m'.cursor.rest = [] →
      p.trail = []) :
    Follows (Lay.blockScalar literal) (Lay.blockScalar literal) (p.layout m) m
      (Moved p (m.cursor.rest.length - 1)) := by
  have hends : Follows (Lay.blockScalar literal) (Lay.blockScalar literal) (p.layout m) m
      fun a l' b m' => Moved p (m.cursor.rest.length - 1) a l' b m' ∨
        m'.cursor.rest = [] ∧ p.trail ≠ [] := by
    refine Even.dropKeyPlace.then fun _ _ h₁ => (Even.allowKey true).then fun _ m₂ h₂ => ?_
    have hcursor : m₂.cursor = m.cursor := h₂.trans h₁
    rw [← hcursor] at hm hne ⊢
    refine (moved_skip hm (List.length_pos_iff.2 hne)).thenMoved fun _ m₃ hm₃ hle => ?_
    refine follows_get ?_
    rw [Padding.layout_columns]
    refine (follows_scanning (Block.nears_scan literal _ (Padding.along_cursor hm₃))).bind
      fun chars l' chars' m' hscan => ?_
    obtain ⟨hnears, hl, hm'⟩ := hscan
    rcases hnears with ⟨rfl, halong, hle'⟩ | hpast
    · rw [layout_of_along halong hl hm']
      exact ((Even.put _).moved halong.within (by omega)).mono fun _ _ _ _ => .inl
    · rintro _ _ ⟨⟩
      refine ⟨(), _, rfl, .inr ⟨hpast.ended, fun htrail => ?_⟩⟩
      have hcrossed := hpast.crossed
      simp [htrail] at hcrossed
  refine hends.runs.mono fun _ l' _ m' hQ => ?_
  obtain ⟨hmoved | ⟨hended, htrail⟩, -, hrun⟩ := hQ
  · exact hmoved
  · exact absurd (hcloses m' hrun hended) htrail

end Tokens

theorem startsPlain_append {p : Padding} {flow : Bool} {c : Char} {r : List Char}
    (hdash : ¬ (c = '-' ∧ isGap r)) :
    Lay.startsPlain flow (c :: r ++ p.trail) = Lay.startsPlain flow (c :: r) := by
  simp only [List.cons_append, Lay.startsPlain, p.isGap_append]
  split
  next hc =>
    rcases r with _ | ⟨d, r⟩
    · exact absurd ⟨hc, rfl⟩ hdash
    · rfl
  · rfl

/-- What starts a plain scalar is no comment, and no end of a word, inside brackets or not. -/
theorem isWordEnd_of_startsPlain (inFlow : Bool) {flow : Bool} {c : Char} {r : List Char}
    (h : Lay.startsPlain flow (c :: r) = true) :
    c ≠ '#' ∧ Plain.isWordEnd inFlow (c :: r) = false := by
  by_cases hc : c = '-' ∨ c = '?' ∨ c = ':'
  · obtain rfl | rfl | rfl := hc
    · exact ⟨by decide, by cases inFlow <;> rfl⟩
    · exact ⟨by decide, by cases inFlow <;> rfl⟩
    · have hgap : isGap r = false := by
        simp only [Lay.startsPlain] at h
        simp_all
      exact ⟨by decide, hgap⟩
  · obtain ⟨hdash, hquery, hcolon⟩ : c ≠ '-' ∧ c ≠ '?' ∧ c ≠ ':' := by simpa using hc
    simp only [Lay.startsPlain, hdash, hquery, hcolon, or_self, if_false, Bool.and_eq_true,
      Bool.not_eq_true', isGap] at h
    obtain ⟨hgap, hout⟩ := h
    have hflow : c ≠ '#' ∧ Plain.isFlowIndicator c = false := by
      simp_all [Plain.isFlowIndicator]
    refine ⟨hflow.1, ?_⟩
    simp [Plain.isWordEnd, hgap, hflow.2]

theorem lands_next {p : Padding} {m : Layout} {flow : Bool} {c : Char} {r : List Char}
    (hm : m.cursor.rest <:+ p.text) (hr : m.cursor.rest = c :: r)
    (hmark : m.cursor.atDocumentMark '-' = false ∧ m.cursor.atDocumentMark '.' = false)
    (hcloses : flow = false → ∀ literal, c = (if literal then '|' else '>') →
      ∀ m', Lay.blockScalar literal m = some ((), m') → m'.cursor.rest = [] → p.trail = []) :
    Follows (Lay.next flow c (r ++ p.trail)) (Lay.next flow c r) (p.layout m) m
      (Lands p (m.cursor.rest.length - 1)) := by
  have hne : m.cursor.rest ≠ [] := by simp [hr]
  have hmoved {f : Lay Unit}
      (h : Follows f f (p.layout m) m (Moved p (m.cursor.rest.length - 1))) :
      Follows f f (p.layout m) m (Lands p (m.cursor.rest.length - 1)) :=
    h.mono fun _ _ _ _ => .inl
  unfold Lay.next
  rw [p.isGap_append]
  refine .ite Iff.rfl (fun _ => hmoved (moved_flowStart hm hne _)) fun _ => ?_
  refine .ite Iff.rfl (fun _ => hmoved (moved_flowStart hm hne _)) fun _ => ?_
  refine .ite Iff.rfl (fun _ => hmoved (moved_flowEnd hm hne _)) fun _ => ?_
  refine .ite Iff.rfl (fun _ => hmoved (moved_flowEnd hm hne _)) fun _ => ?_
  refine .ite Iff.rfl (fun _ => hmoved (moved_flowEntry hm hne)) fun _ => ?_
  refine .ite Iff.rfl (fun _ => hmoved (moved_blockEntry hm hne)) fun hdash => ?_
  refine .ite Iff.rfl (fun _ => hmoved (moved_key hm hne)) fun _ => ?_
  refine .ite Iff.rfl (fun _ => hmoved (moved_value hm hne)) fun _ => ?_
  refine .ite Iff.rfl (fun _ => hmoved (moved_keyable hm hne fun x y h hne => ?_)) fun _ => ?_
  · exact (follows_anchorName h hne).then fun _ _ _ h' hle => follows_pure h' _ hle
  refine .ite Iff.rfl (fun _ => hmoved (moved_keyable hm hne fun x y h hne => ?_)) fun _ => ?_
  · exact (follows_anchorName h hne).then fun _ _ _ h' hle => follows_pure h' _ hle
  refine .ite Iff.rfl (fun _ => hmoved (moved_keyable hm hne fun x y h hne => ?_)) fun _ => ?_
  · exact (Tag.follows_scan flow h).then fun _ _ _ h' hle => follows_pure h' _ hle
  refine .ite Iff.rfl (fun hc => hmoved (moved_blockScalar hm hne true ?_)) fun _ => ?_
  · exact hcloses (by simpa using hc.2) true hc.1
  refine .ite Iff.rfl (fun hc => hmoved (moved_blockScalar hm hne false ?_)) fun _ => ?_
  · exact hcloses (by simpa using hc.2) false hc.1
  refine .ite Iff.rfl (fun _ => hmoved (moved_keyable hm hne fun x y h hne => ?_)) fun _ => ?_
  · exact (Quoted.follows_single h hne).then fun _ _ _ h' hle => follows_pure h' _ hle
  refine .ite Iff.rfl (fun _ => hmoved (moved_keyable hm hne fun x y h hne => ?_)) fun _ => ?_
  · exact (Quoted.follows_double h hne).then fun _ _ _ h' hle => follows_pure h' _ hle
  rw [← List.cons_append, startsPlain_append hdash]
  refine .ite Iff.rfl (fun hplain => lands_plainScalar hm fun inFlow column => ?_) fun _ => ?_
  · obtain ⟨hcomment, hend⟩ := isWordEnd_of_startsPlain inFlow hplain
    exact Plain.takes_scan hmark (by simpa [hr] using hcomment) (by rw [hr]; exact hend)
  · exact .of_fails rfl

end JsonTypes.Yaml
