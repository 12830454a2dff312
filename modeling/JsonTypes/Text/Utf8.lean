/-!
# UTF-8

The bytes of characters, and the characters of bytes. Bytes that are not UTF-8 can be read too: a
byte that belongs to no character is a stray one, and stands for a replacement character.
-/

namespace JsonTypes.Text

def utf8Bytes (c : Char) : List UInt8 := c.toString.toUTF8.data.toList

def utf8Text? (bytes : List UInt8) : Option String :=
  String.fromUTF8? ⟨bytes.toArray⟩

/-- How many bytes a character has that starts with this one. -/
def sequenceLength? (b : UInt8) : Option Nat :=
  if b < 0x80 then some 1
  else if b &&& 0xE0 = 0xC0 then some 2
  else if b &&& 0xF0 = 0xE0 then some 3
  else if b &&& 0xF8 = 0xF0 then some 4
  else none

/-- A character and the number of bytes that it takes in the text it is read from. -/
structure Symbol where
  char : Char
  size : Nat
deriving DecidableEq, Repr

namespace Symbol

def ofChar (c : Char) : Symbol := ⟨c, c.utf8Size⟩

def stray : Symbol := ⟨'\uFFFD', 1⟩

/-- Whether it is a byte that belongs to no character. -/
def isStray (s : Symbol) : Bool := s.size ≠ s.char.utf8Size

theorem isStray_ofChar (c : Char) : (ofChar c).isStray = false := by simp [isStray, ofChar]

def ofText (text : String) : List Symbol := text.toList.map ofChar

/-- The character that some bytes start with. -/
def first? (bytes : List UInt8) : Option Char := do
  let n ← sequenceLength? (← bytes.head?)
  (← utf8Text? (bytes.take n)).toList.head?

def ofBytesLoop : Nat → List UInt8 → List Symbol
  | 0, _ => []
  | _, [] => []
  | fuel + 1, b :: bytes =>
    match first? (b :: bytes) with
    | some c => ofChar c :: ofBytesLoop fuel (bytes.drop (c.utf8Size - 1))
    | none => stray :: ofBytesLoop fuel bytes

def ofBytes (bytes : List UInt8) : List Symbol := ofBytesLoop bytes.length bytes

end Symbol

end JsonTypes.Text
