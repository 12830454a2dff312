import JsonTypes.Proofs.Json.Surroundings
import JsonTypes.Proofs.Yaml.Rules
import JsonTypes.Yaml.Layout

/-!
# Tags, anchors and directives in a padded text
-/

namespace JsonTypes.Yaml

theorem isWordChar_of_isBlank {c : Char} (h : Json.isBlank c = true) :
    (isWordChar c && !isBreak c) = false := by
  obtain rfl | rfl | rfl | rfl := cases_of_isBlank h <;> decide

/-! ## Tags -/

namespace Tag

variable {p : Padding}

theorem hexByte?_of_isBlank {a b : Char} (h : Json.isBlank a = true ∨ Json.isBlank b = true) :
    Text.hexByte? a b = none := by
  unfold Text.hexByte?
  rcases h with h | h
  · rw [Json.hexDigit?_of_isBlank (Json.isBlank_toText h)]
  · rw [Json.hexDigit?_of_isBlank (Json.isBlank_toText h)]
    split
    · contradiction
    · rfl

/-- The byte of an escape that begins here. -/
def octetAt? : List Char → Option UInt8
  | '%' :: a :: b :: _ => Text.hexByte? a b
  | _ => none

theorem octetAt?_eq_some {r : List Char} {byte : UInt8} : octetAt? r = some byte ↔
    ∃ a b cs, r = '%' :: a :: b :: cs ∧ Text.hexByte? a b = some byte := by
  constructor
  · intro h
    unfold octetAt? at h
    split at h
    · exact ⟨_, _, _, rfl, h⟩
    · cases h
  · rintro ⟨a, b, cs, rfl, h⟩
    exact h

theorem octetAt?_append (r : List Char) : octetAt? (r ++ p.trail) = octetAt? r := by
  refine Option.ext fun byte => ?_
  rw [octetAt?_eq_some, octetAt?_eq_some]
  constructor
  · rintro ⟨a, b, cs, hr, hbyte⟩
    have hvisible : Json.isBlank a = false ∧ Json.isBlank b = false := by
      rw [← Bool.not_eq_true, ← Bool.not_eq_true, ← not_or]
      intro hblank
      cases (hexByte?_of_isBlank hblank).symm.trans hbyte
    have hout {c : Char} (hc : Json.isBlank c = false) : c ∉ p.trail := fun hmem => by
      cases hc.symm.trans (p.blank c hmem)
    match r with
    | c :: d :: e :: r =>
      cases hr
      exact ⟨a, b, r, rfl, hbyte⟩
    | [] => exact absurd (hr ▸ List.mem_cons_self) (hout (by decide))
    | [c] =>
      have htrail : p.trail = a :: b :: cs := (List.cons.inj hr).2
      exact absurd (htrail ▸ List.mem_cons_self) (hout hvisible.1)
    | [c, d] =>
      have htrail : p.trail = b :: cs := (List.cons.inj (List.cons.inj hr).2).2
      exact absurd (htrail ▸ List.mem_cons_self) (hout hvisible.2)
  · rintro ⟨a, b, cs, rfl, hbyte⟩
    exact ⟨a, b, cs ++ p.trail, rfl, hbyte⟩

theorem octet_eq : octet = (do
    match octetAt? (← Scan.rest) with
    | some byte => Scan.skip 3; pure byte
    | none => failure) := by
  unfold octet
  congr 1
  funext cs
  split
  · rfl
  next hno =>
    have hnone : octetAt? cs = none := by
      unfold octetAt?
      split
      · exact absurd rfl (hno _ _ _)
      · rfl
    rw [hnone]

theorem follows_octet {x y : Cursor} (h : Along p x y) :
    Follows octet octet x y (Keeps p (y.rest.length - 1)) := by
  rw [octet_eq]
  refine follows_rest ?_
  rw [h.rest, octetAt?_append]
  split
  next byte hbyte =>
    obtain ⟨a, b, cs, hy, -⟩ := octetAt?_eq_some.1 hbyte
    have hlength : 3 ≤ y.rest.length := by simp [hy]
    exact (follows_skip h hlength).then fun _ x' y' h' hle => follows_pure h' byte (by omega)
  · exact .of_fails rfl

theorem closed_octet : Closed p octet := fun _ _ h =>
  (follows_octet h).mono fun _ _ _ _ hkeeps => hkeeps.mono (Nat.sub_le _ _)

theorem closed_continuation : ∀ n, Closed p (continuation n)
  | 0 => .pure []
  | n + 1 => closed_octet.bind fun _ => (Closed.guarded _).bind fun _ =>
      (closed_continuation n).bind fun _ => .pure _

/-- An escaped character takes something. -/
theorem follows_escaped {x y : Cursor} (h : Along p x y) :
    Follows escaped escaped x y (Keeps p (y.rest.length - 1)) := by
  refine (follows_octet h).then fun b x' y' h' hle => ?_
  split
  next n _ =>
    refine (closed_continuation (n - 1) x' y' h').then fun bs x'' y'' h'' hle' => ?_
    exact follows_pure h'' _ (by omega)
  · exact .of_fails rfl

theorem isUriChar_of_isBlank {brackets : Bool} {c : Char} (h : Json.isBlank c = true) :
    isUriChar brackets c = false := by
  obtain rfl | rfl | rfl | rfl := cases_of_isBlank h <;> cases brackets <;> decide

theorem uriLoop_blank (brackets : Bool) (n : Nat) {x : Cursor}
    (hx : ∀ c, x.rest.head? = some c → Json.isBlank c = true) :
    uriLoop brackets n x = some ([], x) := by
  rcases n with _ | n
  · rfl
  · rw [uriLoop, peek_bind]
    rcases hhead : x.rest.head? with _ | c
    · rfl
    · dsimp only
      rw [isUriChar_of_isBlank (hx c hhead), if_pos (by decide)]
      rfl

theorem follows_uriLoop (brackets : Bool) {n m : Nat} {x y : Cursor} (h : Along p x y)
    (hn : x.rest.length ≤ n) (hm : y.rest.length ≤ m) :
    Follows (uriLoop brackets n) (uriLoop brackets m) x y (Keeps p y.rest.length) := by
  induction n generalizing m x y with
  | zero =>
    have hy : y.rest = [] := List.eq_nil_of_length_eq_zero (by have := h.length; omega)
    rintro _ _ ⟨⟩
    exact ⟨[], y, uriLoop_blank brackets m (by simp [hy]), rfl, h, le_rfl⟩
  | succ n ih =>
    by_cases hne : y.rest = []
    · have hx : x.rest = p.trail := by rw [h.rest, hne, List.nil_append]
      have hblank : ∀ c, x.rest.head? = some c → Json.isBlank c = true := fun c hc =>
        p.blank c (hx ▸ List.mem_of_head? hc)
      intro a x' ha
      rw [uriLoop_blank brackets _ hblank] at ha
      cases ha
      exact ⟨[], y, uriLoop_blank brackets m (by simp [hne]), rfl, h, le_rfl⟩
    have hpos := List.length_pos_iff.2 hne
    obtain ⟨m, rfl⟩ : ∃ k, m = k + 1 := ⟨m - 1, by omega⟩
    have hrec {x' y' : Cursor} (h' : Along p x' y') (hle : y'.rest.length ≤ y.rest.length - 1) :
        Follows (uriLoop brackets n) (uriLoop brackets m) x' y' (Keeps p y.rest.length) := by
      have hlength := h.length
      have hlength' := h'.length
      exact (ih h' (by omega) (by omega)).mono fun _ _ _ _ hkeeps => hkeeps.mono (by omega)
    refine follows_peek (.inl h) (fun _ c r hy => ?_) fun hnil => absurd hnil hne
    refine .ite Iff.rfl (fun _ => follows_pure h [] le_rfl) fun _ => ?_
    refine .ite Iff.rfl (fun _ => ?_) fun _ => ?_
    · refine (follows_escaped h).then fun bs x' y' h' hle => ?_
      exact (hrec h' hle).then fun bs' _ _ h'' hle' => follows_pure h'' _ hle'
    · refine (follows_skip h (by omega)).then fun _ x' y' h' hle => ?_
      exact (hrec h' hle).then fun bs' _ _ h'' hle' => follows_pure h'' _ hle'

theorem closed_uri (brackets : Bool) : Closed p (uri brackets) := fun _ _ h =>
  follows_rest (follows_uriLoop brackets h le_rfl le_rfl)

theorem closed_nonEmptyUri (brackets : Bool) : Closed p (nonEmptyUri brackets) :=
  (closed_uri brackets).bind fun _ => (Closed.guarded _).bind fun _ => .pure _

theorem follows_handleText {x y : Cursor} (h : Along p x y) :
    Follows handleText handleText x y (Keeps p (y.rest.length - 1)) := by
  refine (follows_expect h (by decide)).then fun _ x' y' h' hle => ?_
  refine (follows_takeWhile h' fun _ => isWordChar_of_isBlank).then fun name x' y' h' hle' => ?_
  refine follows_test (.inl h') (by decide) (fun h' r hy => ?_) fun _ => follows_pure h' _ (by omega)
  exact (follows_skip h' (by simp [hy])).then fun _ _ _ h'' hle'' => follows_pure h'' _ (by omega)

theorem closed_handleText : Closed p handleText := fun _ _ h =>
  (follows_handleText h).mono fun _ _ _ _ hkeeps => hkeeps.mono (Nat.sub_le _ _)

theorem scanWhole_eq : scanWhole = (do
    if ['!', '<'].isPrefixOf (← Scan.rest) then
      Scan.skip 2
      let bytes ← nonEmptyUri true
      Scan.expect '>'
      pure ⟨[], bytes⟩
    else
      let handle ← handleText
      if isNamed handle then return ⟨handle, ← nonEmptyUri false⟩
      else
        let bytes := (handle.tail.flatMap Text.utf8Bytes ++ (← uri false)).takeWhile (· ≠ 0)
        if bytes.isEmpty then pure ⟨[], bare⟩ else pure ⟨['!'], bytes⟩) := by
  unfold scanWhole
  congr 1
  funext cs
  split
  · rfl
  next hno =>
    rw [if_neg]
    rw [List.isPrefixOf_iff_prefix]
    rintro ⟨cs', rfl⟩
    exact hno cs' rfl

theorem follows_scanWhole {x y : Cursor} (h : Along p x y) :
    Follows scanWhole scanWhole x y (Keeps p (y.rest.length - 1)) := by
  have hsame : ['!', '<'].isPrefixOf x.rest ↔ ['!', '<'].isPrefixOf y.rest := by
    rw [List.isPrefixOf_iff_prefix, List.isPrefixOf_iff_prefix, h.rest,
      p.prefix_append_iff (by simp [Json.isBlank])]
  rw [scanWhole_eq]
  refine follows_rest (.ite hsame (fun hword => ?_) fun _ => ?_)
  · rw [hsame, List.isPrefixOf_iff_prefix] at hword
    refine (follows_skip (n := 2) h hword.length_le).then fun _ x' y' h' hle => ?_
    refine ((closed_nonEmptyUri true).bind (fun bytes => ?_) x' y' h').mono fun _ _ _ _ hkeeps =>
      hkeeps.mono (by omega)
    exact (Closed.expect (by decide)).bind fun _ => .pure _
  · refine (follows_handleText h).then fun handle x' y' h' hle => ?_
    refine (Closed.ite ?_ ?_ x' y' h').mono fun _ _ _ _ hkeeps => hkeeps.mono hle
    · exact (closed_nonEmptyUri false).bind fun _ => .pure _
    · exact (closed_uri false).bind fun _ => .ite (.pure _) (.pure _)

theorem follows_scan (inFlow : Bool) {x y : Cursor} (h : Along p x y) :
    Follows (scan inFlow) (scan inFlow) x y (Keeps p (y.rest.length - 1)) := by
  refine (follows_scanWhole h).then fun tag x' y' h' hle => ?_
  refine (Closed.peek (fun o => ?_) (fun o ho => ?_) x' y' h').mono fun _ _ _ _ hkeeps =>
    hkeeps.mono hle
  · refine .rest (fun cs => (Closed.guarded _).bind fun _ => .pure tag) fun cs => ?_
    rw [p.isGap_append]
  · have ho : o ≠ some ',' := fun h => ne_of_isBlank (ho _ h) (by decide) rfl
    have hnone : decide (o = some ',') = decide ((none : Option Char) = some ',') :=
      decide_eq_false ho
    rw [hnone]

theorem nonEmptyUri_blank (brackets : Bool) {x : Cursor}
    (hx : ∀ c ∈ x.rest, Json.isBlank c = true) : nonEmptyUri brackets x = none := by
  have huri : uri brackets x = some ([], x) :=
    uriLoop_blank brackets _ fun c hc => hx c (List.mem_of_head? hc)
  unfold nonEmptyUri
  change (uri brackets x).bind _ = none
  rw [huri]
  rfl

end Tag

/-! ## Directives -/

section Directives

variable {p : Padding} {x y : Cursor}

namespace Directive

theorem isDigit_of_isBlank {c : Char} (h : Json.isBlank c = true) :
    (c.isDigit && !isBreak c) = false := by
  obtain rfl | rfl | rfl | rfl := cases_of_isBlank h <;> decide

theorem versionNumber_blank (hx : ∀ c ∈ x.rest, Json.isBlank c = true) :
    versionNumber x = none :=
  fails_taken hx (fun _ => isDigit_of_isBlank) fun x' => by
    rw [guard_neg fun h => h.2 rfl]
    rfl

theorem closed_versionNumber : Closed p versionNumber := by
  refine (Closed.takeWhile ?_).bind fun digits => (Closed.guarded _).bind fun _ => ?_
  · exact fun _ => isDigit_of_isBlank
  · split
    · exact .pure _
    · exact .failure

theorem closed_body (name : String) : Closed p (body name) := by
  refine .ite (closed_versionNumber.bind fun _ => (Closed.expect (by decide)).bind fun _ =>
    closed_versionNumber.bind fun _ => .pure _) (.ite ?_ .failure)
  refine Tag.closed_handleText.bind fun handle => (Closed.guarded _).bind fun _ => fun x y h => ?_
  refine follows_any (.inl h) (fun h c r hy => ?_) fun hy b => ?_
  · refine .guard_bind id fun _ => ?_
    refine (follows_takeBlanks h (by simp [hy]) fun _ => isGap_single).then
      fun _ x' y' h' hle => ?_
    refine ((Tag.closed_nonEmptyUri true).bind (fun stem => ?_) x' y' h').mono
      fun _ _ _ _ hkeeps => hkeeps.mono hle
    exact .rest (fun _ => (Closed.guarded _).bind fun _ => .pure _) fun _ => by rw [p.isGap_append]
  · refine .of_fails (fails_guard <| fails_takeWhile (h.blank hy) fun _ _ hx' => fails_bind ?_)
    exact Tag.nonEmptyUri_blank true hx'

theorem body_blank (name : String) (hx : ∀ c ∈ x.rest, Json.isBlank c = true) :
    body name x = none :=
  fails_ite (fails_bind (versionNumber_blank hx))
    (fails_ite (fails_bind (fails_bind (fails_expect hx (by decide)))) rfl)

/-- A directive is the same, even if the white space behind the text ends its line. -/
theorem follows_scan (h : Along p x y) :
    Follows Directive.scan Directive.scan x y fun d x' d' y' =>
      d = d' ∧ Near p x' y' ∧ y'.rest.length ≤ y.rest.length - 1 := by
  refine (follows_expect h (by decide)).then fun _ x' y' h' hle => ?_
  refine (Closed.takeWhile (fun _ => isWordChar_of_isBlank) x' y' h').then
    fun name x' y' h' hle' => ?_
  refine follows_rest (.guard_bind (fun hgap => ?_) fun _ => ?_)
  · exact Near.isGap_eq (.inl h') ▸ hgap
  by_cases hne : y'.rest = []
  · exact .of_fails (fails_takeWhile (h'.blank hne) fun _ _ hx' => fails_bind (body_blank _ hx'))
  refine (follows_takeBlanks h' hne fun _ => isGap_single).then fun _ x' y' h' hle'' => ?_
  refine (closed_body _ x' y' h').then fun d x' y' h' hle3 => ?_
  have hend {x' y' : Cursor} (h' : Near p x' y') (hle : y'.rest.length ≤ y.rest.length - 1) :=
    follows_lineEnd (F := fun _ => pure d) (G := fun _ => pure d) h' fun _ _ h'' hle' =>
      .pure (Q := fun d x' d' y' => d = d' ∧ Near p x' y' ∧ y'.rest.length ≤ y.rest.length - 1)
        ⟨rfl, h'', by omega⟩
  exact (nears_restOfLine (.inl h')).near (fun _ _ _ h' hle4 => hend (.inl h') (by omega))
    fun _ _ _ _ h' => hend (.inr h') (by simp [h'.ended])

end Directive

end Directives

/-! ## Anchors -/

theorem follows_anchorName {p : Padding} {x y : Cursor} (h : Along p x y) (hne : y.rest ≠ []) :
    Follows Lay.anchorName Lay.anchorName x y (Keeps p (y.rest.length - 1)) := by
  refine (follows_skip h (List.length_pos_iff.2 hne)).then fun _ x' y' h' hle => ?_
  refine (Closed.takeWhile (fun _ => isWordChar_of_isBlank) x' y' h').then
    fun name x' y' h' hle' => follows_rest ?_
  refine .guard_bind (fun hgap => ⟨hgap.1, ?_⟩) fun _ => follows_pure h' _ (by omega)
  rw [← Near.isGap_eq (.inl h')]
  by_cases hy : y'.rest = []
  · exact .inl (isGap_of_blank (h'.blank hy))
  · rw [← h'.head?_eq hy]
    exact hgap.2

end JsonTypes.Yaml
