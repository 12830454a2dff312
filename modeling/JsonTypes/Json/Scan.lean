import JsonTypes.Decimal.Shortest
import JsonTypes.Json.Basic
import JsonTypes.Text.Digit
import JsonTypes.Text.Utf8

/-!
# Reading JSON text

A scan takes characters off the front of a text, or stops with a fault and the place where it
arose. A text may come as bytes; a string in it must not hold a stray one. Places are kept as the number of bytes still unread, so no scan has to know the whole text;
`locate` turns one into a line and a column, which counts bytes.

A fault found on a character that was only looked at is placed behind that character
(`failPeeked`), one found on what was already taken is placed where the scan stands (`fail`). A
mismatch between a value and what was wanted has no place until the enclosing value gives it one.
-/

namespace JsonTypes.Json

open Text (Symbol)

inductive Fault where
  | eofList
  | eofObject
  | eofString
  | eofValue
  | expectedColon
  | expectedListCommaOrEnd
  | expectedObjectCommaOrEnd
  | expectedIdent
  | expectedValue
  | invalidCodePoint
  | invalidEscape
  | invalidNumber
  | numberOutOfRange
  | controlCharacter
  | keyNotString
  | loneSurrogate
  | trailingComma
  | trailingCharacters
  | unexpectedEndOfHexEscape
  | recursionLimit
  | mismatch (text : String)
deriving DecidableEq, Repr

def Fault.message : Fault → String
  | eofList => "EOF while parsing a list"
  | eofObject => "EOF while parsing an object"
  | eofString => "EOF while parsing a string"
  | eofValue => "EOF while parsing a value"
  | expectedColon => "expected `:`"
  | expectedListCommaOrEnd => "expected `,` or `]`"
  | expectedObjectCommaOrEnd => "expected `,` or `\x7d`"
  | expectedIdent => "expected ident"
  | expectedValue => "expected value"
  | invalidCodePoint => "invalid unicode code point"
  | invalidEscape => "invalid escape"
  | invalidNumber => "invalid number"
  | numberOutOfRange => "number out of range"
  | controlCharacter => "control character (\\u0000-\\u001F) found while parsing a string"
  | keyNotString => "key must be a string"
  | loneSurrogate => "lone leading surrogate in hex escape"
  | trailingComma => "trailing comma"
  | trailingCharacters => "trailing characters"
  | unexpectedEndOfHexEscape => "unexpected end of hex escape"
  | recursionLimit => "recursion limit exceeded"
  | mismatch text => text

/-- Why and where a scan stopped: `rest` is the text it had not taken, `place` the number of bytes
behind the place of the fault. -/
structure Stop where
  fault : Fault
  rest : List Symbol
  place : Option Nat

abbrev Scan := StateT (List Symbol) (Except Stop)

def byteCount (cs : List Symbol) : Nat := cs.foldl (fun n c => n + c.size) 0

def fail {α : Type} (fault : Fault) : Scan α :=
  fun cs => .error ⟨fault, cs, some (byteCount cs)⟩

def failPeeked {α : Type} (fault : Fault) : Scan α :=
  fun cs => .error ⟨fault, cs, some (byteCount cs - 1)⟩

/-- A fault that is placed later. -/
def failUnplaced {α : Type} (text : String) : Scan α :=
  fun cs => .error ⟨.mismatch text, cs, none⟩

/-- Gives a fault without a place the place where the scan stopped. -/
def placed {α : Type} (scan : Scan α) : Scan α := fun cs =>
  match scan cs with
  | .error ⟨fault, rest, none⟩ => .error ⟨fault, rest, some (byteCount rest)⟩
  | outcome => outcome

/-- Line and column after so many bytes of a text, counting on from `at`. -/
def locateFrom : Nat → List Symbol → Nat × Nat → Nat × Nat
  | 0, _, spot => spot
  | _, [], spot => spot
  | n + 1, c :: cs, (line, column) =>
    if c.char = '\n' then locateFrom n cs (line + 1, 0)
    else locateFrom (n + 1 - c.size) cs (line, column + min (n + 1) c.size)

def locate (text : List Symbol) (bytes : Nat) : Nat × Nat := locateFrom bytes text (1, 0)

def Stop.describe (text : List Symbol) (stop : Stop) : String :=
  let place := stop.place.getD (byteCount stop.rest)
  let (line, column) := locate text (byteCount text - place)
  stop.fault.message ++ " at line " ++ toString line ++ " column " ++ toString column

def isBlank (c : Char) : Bool := c = ' ' || c = '\n' || c = '\t' || c = '\r'

/-- Skips blanks and shows the next character without taking it. -/
def peekPastBlanks : Scan (Option Char) := fun cs =>
  let rest := cs.dropWhile (isBlank ·.char)
  .ok (rest.head?.map (·.char), rest)

def peek : Scan (Option Char) := fun cs => .ok (cs.head?.map (·.char), cs)

def drop : Scan Unit := fun cs => .ok ((), cs.tail)

/-- The byte after the next place, where a character that does not fit is reported. -/
def failAfterByte {α : Type} (fault : Fault) : Scan α := failPeeked fault

/-- Reads the rest of a word whose first letter was taken. -/
def word : List Char → Scan Unit
  | [] => pure ()
  | w :: ws => do
    match ← peek with
    | none => fail .eofValue
    | some c => if c = w then drop; word ws else failAfterByte .expectedIdent

/-! ## Strings -/

/-- The four bytes after a backslash and a `u`, as a number. -/
def hexFour : Scan Nat := fun cs =>
  let left := byteCount cs
  if left < 4 then .error ⟨.eofString, [], some 0⟩
  else
    match cs with
    | a :: b :: c :: d :: rest =>
      match Text.hexDigit? a.char, Text.hexDigit? b.char, Text.hexDigit? c.char,
        Text.hexDigit? d.char with
      | some a, some b, some c, some d => .ok (((a * 16 + b) * 16 + c) * 16 + d, rest)
      | _, _, _, _ => .error ⟨.invalidEscape, cs, some (left - 4)⟩
    | _ => .error ⟨.invalidEscape, cs, some (left - 4)⟩

def expectSecondHalf (c : Char) : Scan Unit := do
  match ← peek with
  | none => fail .eofString
  | some next => if next = c then drop else failAfterByte .unexpectedEndOfHexEscape

/-- A code point from one escape, or from two that are the halves of a surrogate pair. -/
def unicodeEscape : Scan Char := do
  let n ← hexFour
  if 0xDC00 ≤ n ∧ n ≤ 0xDFFF then fail .loneSurrogate
  else if n < 0xD800 ∨ 0xDBFF < n then pure (Char.ofNat n)
  else
    expectSecondHalf '\\'
    expectSecondHalf 'u'
    let low ← hexFour
    if low < 0xDC00 ∨ 0xDFFF < low then fail .loneSurrogate
    else pure (Char.ofNat ((n - 0xD800) * 0x400 + (low - 0xDC00) + 0x10000))

def shortEscape? (c : Char) : Option Char :=
  if c = '"' then some '"'
  else if c = '\\' then some '\\'
  else if c = '/' then some '/'
  else if c = 'b' then some '\x08'
  else if c = 'f' then some '\x0c'
  else if c = 'n' then some '\n'
  else if c = 'r' then some '\r'
  else if c = 't' then some '\t'
  else none

/-- What an escape stands for, after its backslash. -/
def escapeBody : Scan Char := do
  match ← peek with
  | none => fail .eofString
  | some 'u' => drop; unicodeEscape
  | some c =>
    match shortEscape? c with
    | some e => drop; pure e
    | none => failAfterByte .invalidEscape

/-- The number of bytes behind a stray byte that comes next. -/
def strayPlace? : Scan (Option Nat) := fun cs =>
  match cs with
  | c :: rest => .ok (if c.isStray then some (byteCount rest) else none, cs)
  | [] => .ok (none, cs)

/-- A string up to its closing quote, given the place of the first stray byte in it. -/
def stringLoop : Nat → List Char → Option Nat → Scan String
  | 0, _, _ => fail .eofString
  | fuel + 1, taken, stray => do
    match ← peek with
    | none => fail .eofString
    | some '"' =>
      drop
      match stray with
      | none => pure (String.ofList taken.reverse)
      | some place => fun cs => .error ⟨.invalidCodePoint, cs, some place⟩
    | some '\\' => drop; let c ← escapeBody; stringLoop fuel (c :: taken) stray
    | some c =>
      if c.toNat < 0x20 then failAfterByte .controlCharacter
      else
        let stray := stray.or (← strayPlace?)
        drop
        stringLoop fuel (c :: taken) stray

/-- The rest of a string whose opening quote was taken. -/
def stringBody : Scan String := fun cs => stringLoop (cs.length + 1) [] none cs

/-! ## Numbers -/

def isDigit (c : Char) : Bool := '0' ≤ c && c ≤ '9'

def digitValue (c : Char) : Nat := c.toNat - '0'.toNat

def nextIsDigit : Scan Bool := do
  match ← peek with
  | some c => pure (isDigit c)
  | none => pure false

/-- Takes digits onto a number while it fits 64 bits, and says how many were taken. -/
def gatherDigits (value : Nat) : List Symbol → Nat × Nat × List Symbol
  | [] => (value, 0, [])
  | c :: cs =>
    let next := value * 10 + digitValue c.char
    if isDigit c.char && next < UInt64.size then
      let (v, n, rest) := gatherDigits next cs
      (v, n + 1, rest)
    else (value, 0, c :: cs)

def gather (value : Nat) : Scan (Nat × Nat) := fun cs =>
  let (v, n, rest) := gatherDigits value cs
  .ok ((v, n), rest)

/-- Skips a run of digits and counts them. -/
def skipDigits : Scan Nat := fun cs =>
  .ok ((cs.takeWhile (isDigit ·.char)).length, cs.dropWhile (isDigit ·.char))

/-- The double for `significand * 10 ^ exponent`: the significand is taken to the nearest double
first and then scaled by the double of the power of ten, in steps of at most `10 ^ 308`. -/
def scaled? (significand : Nat) (exponent : Int) : Option Nat :=
  let start := Double.ofNatRank significand
  if 0 ≤ exponent then
    if exponent ≤ 308 then Double.mul? start (Double.ofNatRank (Nat.pow 10 exponent.toNat))
    else if significand = 0 then some 0
    else none
  else
    let e := (-exponent).toNat
    if e ≤ 308 then Double.div? start (Double.ofNatRank (Nat.pow 10 e))
    else if e ≤ 616 then
      (Double.div? start (Double.ofNatRank (Nat.pow 10 308))).bind
        (Double.div? · (Double.ofNatRank (Nat.pow 10 (e - 308))))
    else some 0

def double (negative : Bool) (significand : Nat) (exponent : Int) : Scan Number :=
  match scaled? significand exponent with
  | some rank => pure (.double ⟨negative, rank⟩)
  | none => fail .numberOutOfRange

/-- Digits of an exponent; one that outgrows 32 bits makes the number zero or too large. -/
def exponentDigits (negative : Bool) (significand : Nat) (start : Int) (positive : Bool) :
    Nat → Nat → Scan Number
  | 0, _ => fail .invalidNumber
  | fuel + 1, e => do
    match ← peek with
    | some c =>
      if isDigit c then
        drop
        let next := e * 10 + digitValue c
        if UInt32.size / 2 ≤ next then
          if significand ≠ 0 && positive then fail .numberOutOfRange
          else
            let _ ← skipDigits
            pure (.double ⟨negative, 0⟩)
        else exponentDigits negative significand start positive fuel next
      else double negative significand (if positive then start + e else start - e)
    | none => double negative significand (if positive then start + e else start - e)

/-- The part of a number from its exponent letter on. -/
def exponentPart (negative : Bool) (significand : Nat) (start : Int) : Scan Number := do
  drop
  let positive ← do
    match ← peek with
    | some '+' => drop; pure true
    | some '-' => drop; pure false
    | _ => pure true
  match ← peek with
  | none => fail .eofValue
  | some c =>
    if isDigit c then
      drop
      fun cs => exponentDigits negative significand start positive (cs.length + 1)
        (digitValue c) cs
    else failAfterByte .invalidNumber

def isExponentLetter (c : Option Char) : Bool := c = some 'e' || c = some 'E'

/-- The part of a number from its point on. Digits that no longer fit are dropped. -/
def fractionPart (negative : Bool) (significand : Nat) (start : Int) : Scan Number := do
  drop
  let (value, count) ← gather significand
  let extra ← skipDigits
  if count = 0 ∧ extra = 0 then
    match ← peek with
    | some _ => failPeeked .invalidNumber
    | none => failPeeked .eofValue
  else if isExponentLetter (← peek) then exponentPart negative value (start - count)
  else double negative value (start - count)

/-- An integer whose digits are all taken. -/
def integerNumber (negative : Bool) (significand : Nat) : Number :=
  if negative then
    if significand = 0 ∨ UInt64.size / 2 < significand then
      .double ⟨true, Double.ofNatRank significand⟩
    else .integer (-(significand : Int))
  else .integer significand

def afterInteger (negative : Bool) (significand extra : Nat) : Scan Number := do
  match ← peek with
  | some '.' => fractionPart negative significand extra
  | c =>
    if isExponentLetter c then exponentPart negative significand extra
    else if extra = 0 then pure (integerNumber negative significand)
    else double negative significand extra

/-- A number, after its sign. -/
def numberBody (negative : Bool) : Scan Number := do
  match ← peek with
  | none => fail .eofValue
  | some c =>
    if c = '0' then
      drop
      if ← nextIsDigit then failPeeked .invalidNumber else afterInteger negative 0 0
    else if isDigit c then
      let (significand, _) ← gather 0
      let extra ← skipDigits
      afterInteger negative significand extra
    else failAfterByte .invalidNumber

/-! ## Elements and members -/

/-- Whether another element follows in a list, up to its first character. -/
def anotherElement (first : Bool) : Scan Bool := do
  match ← peekPastBlanks with
  | none => failPeeked .eofList
  | some ']' => pure false
  | some c =>
    if first then pure true
    else if c = ',' then
      drop
      match ← peekPastBlanks with
      | some ']' => failPeeked .trailingComma
      | some _ => pure true
      | none => failPeeked .eofValue
    else failPeeked .expectedListCommaOrEnd

/-- Whether another member follows in an object, up to the quote of its key. -/
def anotherMember (first : Bool) : Scan Bool := do
  match ← peekPastBlanks with
  | none => failPeeked .eofObject
  | some '\x7d' => pure false
  | some c =>
    if first then if c = '"' then pure true else failPeeked .keyNotString
    else if c = ',' then
      drop
      match ← peekPastBlanks with
      | some '"' => pure true
      | some '\x7d' => failPeeked .trailingComma
      | some _ => failPeeked .keyNotString
      | none => failPeeked .eofValue
    else failPeeked .expectedObjectCommaOrEnd

def key : Scan String := do
  drop
  stringBody

def colon : Scan Unit := do
  match ← peekPastBlanks with
  | some ':' => drop
  | some _ => failPeeked .expectedColon
  | none => failPeeked .eofObject

/-- Nothing but blanks may follow. -/
def endOfText : Scan Unit := do
  match ← peekPastBlanks with
  | some _ => failPeeked .trailingCharacters
  | none => pure ()

end JsonTypes.Json
