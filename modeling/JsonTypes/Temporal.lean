import JsonTypes.Graph.Node
import JsonTypes.Text.Digit

/-!
# Dates and times in strings

A string has a temporal format if it has the format's shape and names a day of the calendar or a
time of the clock. The shape admits digits of every script; years, months, days and the parts of a
clock time count only in ASCII digits. A second of 60 is a leap second and allowed at any time.

A time may be followed by an offset, which is not looked into. The offset of a date-time must be
less than a day, and after a `t` it must be there, with a colon if it is not `Z`.
-/

namespace JsonTypes.Temporal

open Text

/-- Takes exactly so many digits off the front. -/
def digits? : Nat → List Char → Option (List Char × List Char)
  | 0, cs => some ([], cs)
  | n + 1, c :: cs =>
    if isDecimal c then (digits? n cs).map fun (ds, rest) => (c :: ds, rest) else none
  | _ + 1, [] => none

def char? (c : Char) : List Char → Option (List Char)
  | [] => none
  | x :: rest => if x = c then some rest else none

/-- The digits of a date. -/
structure DateText where
  year : List Char
  month : List Char
  day : List Char

def date? (cs : List Char) : Option (DateText × List Char) := do
  let (year, cs) ← digits? 4 cs
  let cs ← char? '-' cs
  let (month, cs) ← digits? 2 cs
  let cs ← char? '-' cs
  let (day, cs) ← digits? 2 cs
  return (⟨year, month, day⟩, cs)

/-- The digits of a clock time; those of a second's fraction come last. -/
structure ClockText where
  hour : List Char
  minute : List Char
  second : List Char
  fraction : List Char

/-- A point and digits, or nothing. -/
def fraction? : List Char → Option (List Char × List Char)
  | '.' :: cs =>
    let ds := cs.takeWhile isDecimal
    if ds.isEmpty then none else some (ds, cs.dropWhile isDecimal)
  | cs => some ([], cs)

def clock? (cs : List Char) : Option (ClockText × List Char) := do
  let (hour, cs) ← digits? 2 cs
  let cs ← char? ':' cs
  let (minute, cs) ← digits? 2 cs
  let cs ← char? ':' cs
  let (second, cs) ← digits? 2 cs
  let (fraction, cs) ← fraction? cs
  return (⟨hour, minute, second, fraction⟩, cs)

inductive OffsetText where
  | absent
  | utc
  | signed (hour : List Char) (colon : Bool) (minute : List Char)

/-- What may end a time: nothing, a `Z`, or a sign, hours and minutes. -/
def offset? : List Char → Option OffsetText
  | [] => some .absent
  | [c] => if c = 'Z' ∨ c = 'z' then some .utc else none
  | sign :: cs =>
    if sign = '+' ∨ sign = '-' then do
      let (hour, cs) ← digits? 2 cs
      let colon := cs.head? = some ':'
      let (minute, cs) ← digits? 2 (if colon then cs.tail else cs)
      if cs.isEmpty then some (.signed hour colon minute) else none
    else none

def isLeapYear (year : Nat) : Bool := year % 4 = 0 && (year % 100 ≠ 0 || year % 400 = 0)

def daysInMonth (year month : Nat) : Nat :=
  if month = 2 then if isLeapYear year then 29 else 28
  else if month = 4 ∨ month = 6 ∨ month = 9 ∨ month = 11 then 30
  else 31

def DateText.isValid (d : DateText) : Bool :=
  match asciiNumber? d.year, asciiNumber? d.month, asciiNumber? d.day with
  | some year, some month, some day =>
    1 ≤ month && month ≤ 12 && 1 ≤ day && day ≤ daysInMonth year month
  | _, _, _ => false

def ClockText.isValid (t : ClockText) : Bool :=
  match asciiNumber? t.hour, asciiNumber? t.minute, asciiNumber? t.second,
    asciiNumber? t.fraction with
  | some hour, some minute, some second, some _ => hour ≤ 23 && minute ≤ 59 && second ≤ 60
  | _, _, _, _ => false

/-- Whether a date-time may end with this offset, given the character before its clock time. -/
def OffsetText.isValidAfter (separator : Char) : OffsetText → Bool
  | absent => separator ≠ 't'
  | utc => true
  | signed hour colon minute =>
    match asciiNumber? hour, asciiNumber? minute with
    | some h, some m => h ≤ 23 && m ≤ 59 && (colon || separator ≠ 't')
    | _, _ => false

def isSeparator (c : Char) : Bool := c = 'T' || c = 't' || c = ' '

def detectTime (cs : List Char) : Option StringFormat :=
  match clock? cs with
  | none => none
  | some (clock, rest) =>
    match offset? rest with
    | none => none
    | some _ => if clock.isValid then some .time else none

/-- The format of a date with more text behind it. -/
def detectDateTime (date : DateText) (separator : Char) (cs : List Char) : Option StringFormat :=
  match clock? cs with
  | none => none
  | some (clock, rest) =>
    match offset? rest with
    | none => none
    | some offset =>
      if isSeparator separator && date.isValid && clock.isValid &&
          offset.isValidAfter separator then
        some .dateTime
      else none

def detectFormat (s : String) : Option StringFormat :=
  match date? s.toList with
  | some (date, []) => if date.isValid then some .date else none
  | some (date, separator :: rest) => detectDateTime date separator rest
  | none => detectTime s.toList

end JsonTypes.Temporal
