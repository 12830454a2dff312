import JsonTypes.Temporal

/-!
# Times and date-times

A date-time is a date, a separator and what follows it. What follows is always a time, as the same
clock scanner reads both. The other way round the two part over the offset: a time may end with
anything of an offset's shape, while a date-time asks for one of less than a day, and after a `t`
for one that is there and has a colon if it is not `Z`. `TakenAfter` lists the ends that are taken,
and `detectFormat_dateTime_iff` says that nothing else keeps a time from making a date-time.
-/

namespace JsonTypes.Temporal

open Text

/-! ## What the scanners take off the front -/

section Scanners

variable {cs rest : List Char}

theorem digits?_eq_some : ∀ {n : Nat} {cs ds rest : List Char}, digits? n cs = some (ds, rest) →
    cs = ds ++ rest ∧ ds.length = n ∧ ∀ c ∈ ds, isDecimal c = true
  | 0, cs, ds, rest, h => by
    cases h
    exact ⟨rfl, rfl, nofun⟩
  | n + 1, [], ds, rest, h => nomatch h
  | n + 1, c :: cs, ds, rest, h => by
    rw [digits?] at h
    split at h
    case isFalse => cases h
    case isTrue hc =>
      obtain ⟨⟨ds', rest'⟩, hmore, heq⟩ := Option.map_eq_some_iff.1 h
      cases heq
      obtain ⟨rfl, hlen, hall⟩ := digits?_eq_some hmore
      exact ⟨rfl, congrArg (· + 1) hlen, List.forall_mem_cons.2 ⟨hc, hall⟩⟩

theorem digits?_append_left : ∀ {ds : List Char}, (∀ c ∈ ds, isDecimal c = true) →
    ∀ rest, digits? ds.length (ds ++ rest) = some (ds, rest)
  | [], _, rest => rfl
  | c :: ds, h, rest => by
    obtain ⟨hc, hds⟩ := List.forall_mem_cons.1 h
    rw [List.cons_append, List.length_cons, digits?, if_pos hc, digits?_append_left hds]
    rfl

theorem digits?_append {n : Nat} {ds : List Char} (h : digits? n cs = some (ds, rest))
    (more : List Char) : digits? n (cs ++ more) = some (ds, rest ++ more) := by
  obtain ⟨rfl, rfl, hall⟩ := digits?_eq_some h
  rw [List.append_assoc]
  exact digits?_append_left hall _

theorem digits?_two {ds : List Char} (h : digits? 2 cs = some (ds, rest)) :
    ∃ a b, ds = [a, b] ∧ cs = a :: b :: rest := by
  obtain ⟨rfl, hlen, -⟩ := digits?_eq_some h
  match ds, hlen with
  | [a, b], _ => exact ⟨a, b, rfl, rfl⟩

theorem char?_eq_some {c : Char} (h : char? c cs = some rest) : cs = c :: rest := by
  rcases cs with _ | ⟨x, cs⟩
  · cases h
  · rw [char?] at h
    split at h
    · cases h
      rw [‹x = c›]
    · cases h

theorem char?_cons (c : Char) : char? c (c :: rest) = some rest := if_pos rfl

theorem date?_append {date : DateText} (h : date? cs = some (date, rest)) (more : List Char) :
    date? (cs ++ more) = some (date, rest ++ more) := by
  simp only [date?, Option.bind_eq_bind, Option.bind_eq_some_iff, Option.pure_def,
    Option.some.injEq, Prod.mk.injEq, Prod.exists] at h ⊢
  obtain ⟨year, cs₁, hyear, cs₂, hdash, month, cs₃, hmonth, cs₄, hdash', day, cs₅, hday, rfl, rfl⟩ :=
    h
  cases char?_eq_some hdash
  cases char?_eq_some hdash'
  exact ⟨year, _, digits?_append hyear more, _, char?_cons '-', month, _,
    digits?_append hmonth more, _, char?_cons '-', day, _, digits?_append hday more, rfl, rfl⟩

/-- The characters of a clock time. -/
def IsClockChar (c : Char) : Prop := isDecimal c = true ∨ c = ':' ∨ c = '.'

theorem fraction?_eq_some {ds : List Char} (h : fraction? cs = some (ds, rest)) :
    ∃ taken, cs = taken ++ rest ∧ ∀ c ∈ taken, IsClockChar c := by
  unfold fraction? at h
  split at h
  next cs' =>
    dsimp only at h
    split at h
    · cases h
    · cases h
      refine ⟨'.' :: cs'.takeWhile isDecimal, ?_, List.forall_mem_cons.2 ⟨.inr (.inr rfl), ?_⟩⟩
      · rw [List.cons_append, List.takeWhile_append_dropWhile]
      · exact fun c hc => .inl (List.all_eq_true.1 List.all_takeWhile c hc)
  next =>
    cases h
    exact ⟨[], rfl, nofun⟩

/-- A clock time begins with two digits and a colon, and what is left behind it comes after nothing
but clock characters. -/
theorem clock?_eq_some {clock : ClockText} (h : clock? cs = some (clock, rest)) :
    (∃ a b more, cs = a :: b :: ':' :: more) ∧
      ∃ taken, cs = taken ++ rest ∧ ∀ c ∈ taken, IsClockChar c := by
  simp only [clock?, Option.bind_eq_bind, Option.bind_eq_some_iff, Option.pure_def,
    Option.some.injEq, Prod.mk.injEq, Prod.exists] at h
  obtain ⟨hour, cs₁, hhour, cs₂, hcolon, minute, cs₃, hminute, cs₄, hcolon', second, cs₅, hsecond,
    fraction, cs₆, hfraction, rfl, rfl⟩ := h
  cases char?_eq_some hcolon
  cases char?_eq_some hcolon'
  obtain ⟨taken, rfl, htaken⟩ := fraction?_eq_some hfraction
  have clock_of_digits {n : Nat} {xs ds more : List Char} (hds : digits? n xs = some (ds, more)) :
      ∀ c ∈ ds, IsClockChar c := fun c hc => .inl ((digits?_eq_some hds).2.2 c hc)
  have hcolonChar : IsClockChar ':' := .inr (.inl rfl)
  refine ⟨?_, hour ++ ':' :: (minute ++ ':' :: (second ++ taken)), ?_, ?_⟩
  · obtain ⟨a, b, -, rfl⟩ := digits?_two hhour
    exact ⟨a, b, _, rfl⟩
  · rw [(digits?_eq_some hhour).1, (digits?_eq_some hminute).1, (digits?_eq_some hsecond).1]
    simp only [List.append_assoc, List.cons_append]
  · exact List.forall_mem_append.2 ⟨clock_of_digits hhour, List.forall_mem_cons.2 ⟨hcolonChar,
      List.forall_mem_append.2 ⟨clock_of_digits hminute, List.forall_mem_cons.2 ⟨hcolonChar,
        List.forall_mem_append.2 ⟨clock_of_digits hsecond, htaken⟩⟩⟩⟩⟩

/-- A time is no date with more behind it: where its colon stands, a date has a digit. -/
theorem date?_eq_none {clock : ClockText} (h : clock? cs = some (clock, rest)) :
    date? cs = none := by
  obtain ⟨⟨a, b, more, rfl⟩, -⟩ := clock?_eq_some h
  have hcolon : isDecimal ':' = false := by decide
  simp [date?, digits?, hcolon]

end Scanners

/-! ## Offsets -/

/-- Whether a character may be the first of an offset. -/
def beginsOffset (c : Char) : Bool := c = 'Z' || c = 'z' || c = '+' || c = '-'

/-- What a time ends with: its text from the first `Z`, `z` or sign on. -/
def offsetText (cs : List Char) : List Char := cs.dropWhile (!beginsOffset ·)

/-- Two ASCII digits that write a number up to a bound. -/
def WritesUpTo (bound : Nat) (a b : Char) : Prop := ∃ n, asciiNumber? [a, b] = some n ∧ n ≤ bound

/-- The ends that a date-time may have, given the separator before its clock time. -/
inductive TakenAfter (separator : Char) : List Char → Prop
  | absent : separator ≠ 't' → TakenAfter separator []
  | utc {c} : c = 'Z' ∨ c = 'z' → TakenAfter separator [c]
  | colon {sign a b c d} : sign = '+' ∨ sign = '-' → WritesUpTo 23 a b → WritesUpTo 59 c d →
      TakenAfter separator [sign, a, b, ':', c, d]
  | plain {sign a b c d} : separator ≠ 't' → sign = '+' ∨ sign = '-' → WritesUpTo 23 a b →
      WritesUpTo 59 c d → TakenAfter separator [sign, a, b, c, d]

theorem beginsOffset_of_clockChar {c : Char} (h : IsClockChar c) : beginsOffset c = false := by
  rw [Bool.eq_false_iff]
  intro hb
  have hsign : c = 'Z' ∨ c = 'z' ∨ c = '+' ∨ c = '-' := by
    simpa [beginsOffset, or_assoc] using hb
  obtain ⟨hdecimal, hcolon, hpoint⟩ : isDecimal c = false ∧ c ≠ ':' ∧ c ≠ '.' := by
    obtain rfl | rfl | rfl | rfl := hsign <;> decide
  rcases h with h | h | h
  · exact Bool.false_ne_true (hdecimal.symm.trans h)
  · exact hcolon h
  · exact hpoint h

section Offsets

variable {cs rest : List Char} {separator : Char}

/-- The shapes of an offset: nothing, one letter, or a sign with four digits and perhaps a colon. -/
theorem offset?_eq_some {offset : OffsetText} (h : offset? rest = some offset) :
    (rest = [] ∧ offset = .absent) ∨
    (∃ c, (c = 'Z' ∨ c = 'z') ∧ rest = [c] ∧ offset = .utc) ∨
    ∃ sign a b c d, (sign = '+' ∨ sign = '-') ∧
      ((rest = [sign, a, b, ':', c, d] ∧ offset = .signed [a, b] true [c, d]) ∨
        (rest = [sign, a, b, c, d] ∧ offset = .signed [a, b] false [c, d])) := by
  unfold offset? at h
  split at h
  · cases h
    exact .inl ⟨rfl, rfl⟩
  · rename_i c
    split at h
    · cases h
      exact .inr (.inl ⟨c, ‹_›, rfl, rfl⟩)
    · cases h
  · rename_i sign cs hmany
    split at h
    case isFalse => cases h
    case isTrue hsign =>
      simp only [Option.bind_eq_bind, Option.bind_eq_some_iff, Prod.exists] at h
      obtain ⟨hour, cs₁, hhour, minute, cs₂, hminute, hend⟩ := h
      obtain ⟨a, b, rfl, rfl⟩ := digits?_two hhour
      obtain ⟨c, d, rfl, hcs⟩ := digits?_two hminute
      split at hend
      case isFalse => cases hend
      case isTrue hempty =>
        cases hend
        cases List.isEmpty_iff.1 hempty
        refine .inr (.inr ⟨sign, a, b, c, d, hsign, ?_⟩)
        by_cases hcolon : cs₁.head? = some ':'
        · rw [if_pos hcolon] at hcs
          obtain ⟨tail, rfl⟩ := List.head?_eq_some_iff.1 hcolon
          cases hcs
          exact .inl ⟨rfl, rfl⟩
        · rw [if_neg hcolon] at hcs
          cases hcs
          exact .inr ⟨rfl, by rw [decide_eq_false hcolon]⟩

theorem offsetText_eq {clock : ClockText} {offset : OffsetText}
    (h : clock? cs = some (clock, rest)) (ho : offset? rest = some offset) :
    offsetText cs = rest := by
  obtain ⟨-, taken, rfl, htaken⟩ := clock?_eq_some h
  have hrest : rest.dropWhile (!beginsOffset ·) = rest := by
    obtain ⟨rfl, -⟩ | ⟨c, rfl | rfl, rfl, -⟩ |
      ⟨sign, a, b, c, d, rfl | rfl, ⟨rfl, -⟩ | ⟨rfl, -⟩⟩ := offset?_eq_some ho <;> rfl
  rw [offsetText, List.dropWhile_append_of_pos, hrest]
  exact fun c hc => by rw [beginsOffset_of_clockChar (htaken c hc)]; rfl

theorem isDecimal_of_asciiDigit {c : Char} {n : Nat} (h : asciiDigit? c = some n) :
    isDecimal c = true := by
  rw [asciiDigit?, Option.ite_none_right_eq_some] at h
  obtain ⟨⟨hlow, hhigh⟩, -⟩ := h
  have hlow : 48 ≤ c.toNat := hlow
  have hhigh : c.toNat ≤ 57 := hhigh
  refine List.any_eq_true.2 ⟨0x30, List.mem_cons_self, ?_⟩
  simp only [Bool.and_eq_true, decide_eq_true_eq]
  omega

theorem WritesUpTo.isDecimal {bound : Nat} {a b : Char} (h : WritesUpTo bound a b) :
    isDecimal a = true ∧ isDecimal b = true := by
  obtain ⟨n, hn, -⟩ := h
  simp only [asciiNumber?, List.foldlM_cons, Option.bind_eq_bind, Option.bind_eq_some_iff,
    Option.map_eq_some_iff] at hn
  obtain ⟨_, ⟨_, ha, -⟩, _, ⟨_, hb, -⟩, -⟩ := hn
  exact ⟨isDecimal_of_asciiDigit ha, isDecimal_of_asciiDigit hb⟩

variable {sign a b c d : Char}

theorem offset?_colon (hsign : sign = '+' ∨ sign = '-') (hour : isDecimal a = true ∧ isDecimal b = true)
    (minute : isDecimal c = true ∧ isDecimal d = true) :
    offset? [sign, a, b, ':', c, d] = some (.signed [a, b] true [c, d]) := by
  simp [offset?, hsign, digits?, hour.1, hour.2, minute.1, minute.2]

theorem offset?_plain (hsign : sign = '+' ∨ sign = '-') (hour : isDecimal a = true ∧ isDecimal b = true)
    (minute : isDecimal c = true ∧ isDecimal d = true) :
    offset? [sign, a, b, c, d] = some (.signed [a, b] false [c, d]) := by
  have hcolon : c ≠ ':' := by
    rintro rfl
    exact absurd minute.1 (by decide)
  simp [offset?, hsign, digits?, hour.1, hour.2, minute.1, minute.2, hcolon]

theorem isValidAfter_signed {colon : Bool} :
    (OffsetText.signed [a, b] colon [c, d]).isValidAfter separator = true ↔
      WritesUpTo 23 a b ∧ WritesUpTo 59 c d ∧ (colon = true ∨ separator ≠ 't') := by
  unfold WritesUpTo OffsetText.isValidAfter
  rcases hhour : asciiNumber? [a, b] with _ | hour <;>
    rcases hminute : asciiNumber? [c, d] with _ | minute <;> simp [hhour, hminute, and_assoc]

theorem takenAfter_iff : TakenAfter separator rest ↔
    ∃ offset, offset? rest = some offset ∧ offset.isValidAfter separator = true := by
  constructor
  · rintro (hsep | hc | ⟨hsign, hhour, hminute⟩ | ⟨hsep, hsign, hhour, hminute⟩)
    · exact ⟨.absent, rfl, decide_eq_true hsep⟩
    · exact ⟨.utc, if_pos hc, rfl⟩
    · exact ⟨_, offset?_colon hsign hhour.isDecimal hminute.isDecimal,
        isValidAfter_signed.2 ⟨hhour, hminute, .inl rfl⟩⟩
    · exact ⟨_, offset?_plain hsign hhour.isDecimal hminute.isDecimal,
        isValidAfter_signed.2 ⟨hhour, hminute, .inr hsep⟩⟩
  · rintro ⟨offset, ho, hvalid⟩
    obtain ⟨rfl, rfl⟩ | ⟨c, hc, rfl, rfl⟩ | ⟨sign, a, b, c, d, hsign, ⟨rfl, rfl⟩ | ⟨rfl, rfl⟩⟩ :=
      offset?_eq_some ho
    · exact .absent (of_decide_eq_true hvalid)
    · exact .utc hc
    · obtain ⟨hhour, hminute, -⟩ := isValidAfter_signed.1 hvalid
      exact .colon hsign hhour hminute
    · obtain ⟨hhour, hminute, hsep⟩ := isValidAfter_signed.1 hvalid
      exact .plain (hsep.resolve_left Bool.false_ne_true) hsign hhour hminute

end Offsets

/-! ## Both detections -/

theorem detectTime_eq_some {cs : List Char} {f : StringFormat} :
    detectTime cs = some f ↔ f = .time ∧ ∃ clock rest offset, clock? cs = some (clock, rest) ∧
      offset? rest = some offset ∧ clock.isValid = true := by
  constructor
  · intro h
    unfold detectTime at h
    split at h
    · cases h
    next clock rest hclock =>
      split at h
      · cases h
      next offset hoffset =>
        obtain ⟨hvalid, hf⟩ := Option.ite_none_right_eq_some.1 h
        exact ⟨(Option.some.inj hf).symm, clock, rest, offset, hclock, hoffset, hvalid⟩
  · rintro ⟨rfl, clock, rest, offset, hclock, hoffset, hvalid⟩
    simp only [detectTime, hclock, hoffset, hvalid, if_true]

theorem detectDateTime_eq_some {date : DateText} {separator : Char} {cs : List Char}
    {f : StringFormat} :
    detectDateTime date separator cs = some f ↔ f = .dateTime ∧ isSeparator separator = true ∧
      date.isValid = true ∧ ∃ clock rest offset, clock? cs = some (clock, rest) ∧
        offset? rest = some offset ∧ clock.isValid = true ∧
          offset.isValidAfter separator = true := by
  constructor
  · intro h
    unfold detectDateTime at h
    split at h
    · cases h
    next clock rest hclock =>
      split at h
      · cases h
      next offset hoffset =>
        obtain ⟨hvalid, hf⟩ := Option.ite_none_right_eq_some.1 h
        simp only [Bool.and_eq_true] at hvalid
        obtain ⟨⟨⟨hseparator, hdate⟩, hclockValid⟩, hafter⟩ := hvalid
        exact ⟨(Option.some.inj hf).symm, hseparator, hdate, clock, rest, offset, hclock, hoffset,
          hclockValid, hafter⟩
  · rintro ⟨rfl, hseparator, hdate, clock, rest, offset, hclock, hoffset, hvalid, hafter⟩
    simp only [detectDateTime, hclock, hoffset, hseparator, hdate, hvalid, hafter, Bool.and_true,
      if_true]

theorem detectFormat_time_iff {s : String} :
    detectFormat s = some .time ↔ detectTime s.toList = some .time := by
  constructor
  · intro h
    unfold detectFormat at h
    split at h
    · cases (Option.ite_none_right_eq_some.1 h).2
    · cases (detectDateTime_eq_some.1 h).1
    · exact h
  · intro h
    obtain ⟨-, clock, rest, offset, hclock, -⟩ := detectTime_eq_some.1 h
    simp only [detectFormat, date?_eq_none hclock, h]

theorem date?_of_detectFormat {d : String} (h : detectFormat d = some .date) :
    ∃ date, date? d.toList = some (date, []) ∧ date.isValid = true := by
  unfold detectFormat at h
  split at h
  next date hdate => exact ⟨date, hdate, (Option.ite_none_right_eq_some.1 h).1⟩
  · cases (detectDateTime_eq_some.1 h).1
  · cases (detectTime_eq_some.1 h).1

/-- A date, a separator and more make a date-time exactly if what follows is a time with an end
that is taken after the separator. -/
theorem detectFormat_dateTime_iff {d : String} {separator : Char}
    (hd : detectFormat d = some .date) (hseparator : isSeparator separator = true) (s : String) :
    detectFormat (d ++ String.singleton separator ++ s) = some .dateTime ↔
      detectFormat s = some .time ∧ TakenAfter separator (offsetText s.toList) := by
  obtain ⟨date, hdate, hvalid⟩ := date?_of_detectFormat hd
  have htext : (d ++ String.singleton separator ++ s).toList =
      d.toList ++ separator :: s.toList := by
    simp
  have hboth : detectFormat (d ++ String.singleton separator ++ s) =
      detectDateTime date separator s.toList := by
    simp only [detectFormat, htext, date?_append hdate, List.nil_append]
  rw [hboth, detectDateTime_eq_some, detectFormat_time_iff, detectTime_eq_some]
  constructor
  · rintro ⟨-, -, -, clock, rest, offset, hclock, hoffset, hclockValid, hafter⟩
    refine ⟨⟨rfl, clock, rest, offset, hclock, hoffset, hclockValid⟩, ?_⟩
    rw [offsetText_eq hclock hoffset]
    exact takenAfter_iff.2 ⟨offset, hoffset, hafter⟩
  · rintro ⟨⟨-, clock, rest, offset, hclock, hoffset, hclockValid⟩, htaken⟩
    rw [offsetText_eq hclock hoffset] at htaken
    obtain ⟨offset, hoffset, hafter⟩ := takenAfter_iff.1 htaken
    exact ⟨rfl, hseparator, hvalid, clock, rest, offset, hclock, hoffset, hclockValid, hafter⟩

theorem detectFormat_dateTime_iff_zulu :
    (detectFormat "2024-01-15" = some .date ∧ isSeparator 't' = true) ∧
      (detectFormat ("2024-01-15" ++ String.singleton 't' ++ "10:30:00Z") = some .dateTime ↔
        detectFormat "10:30:00Z" = some .time ∧
          TakenAfter 't' (offsetText "10:30:00Z".toList)) := by
  have hd : detectFormat "2024-01-15" = some .date := by decide +kernel
  have hseparator : isSeparator 't' = true := by decide
  exact ⟨⟨hd, hseparator⟩, detectFormat_dateTime_iff hd hseparator "10:30:00Z"⟩

/-- After a `t` a time without an offset makes no date-time, and after any separator one with an
offset of more than a day makes none. -/
theorem detectFormat_time_not_dateTime :
    (¬ ∀ (d s : String) (separator : Char), detectFormat d = some .date →
      isSeparator separator = true →
        (detectFormat s = some .time ↔
          detectFormat (d ++ String.singleton separator ++ s) = some .dateTime)) ∧
      detectFormat "10:30:00+25:00" = some .time ∧
        detectFormat ("2024-01-15" ++ String.singleton 'T' ++ "10:30:00+25:00") = none := by
  refine ⟨fun h => ?_, by decide +kernel, by decide +kernel⟩
  have hnone : detectFormat ("2024-01-15" ++ String.singleton 't' ++ "10:30:00") = none := by
    decide +kernel
  have htime := (h "2024-01-15" "10:30:00" 't' (by decide +kernel) rfl).1 (by decide +kernel)
  rw [hnone] at htime
  cases htime

end JsonTypes.Temporal
