import JsonTypes.Text.Digit

/-!
# Places in a YAML text

A cursor is the rest of a text and where it begins, as the layout of YAML depends on lines and
columns. A scan moves a cursor on, or fails.
-/

namespace JsonTypes.Yaml

/-! ## Characters -/

def isBreak (c : Char) : Bool :=
  c = '\n' || c = '\r' || c = '\x85' || c = '\u2028' || c = '\u2029'

def isBlank (c : Char) : Bool := c = ' ' || c = '\t'

/-- A character of a plain name: an ASCII letter or digit, `-` or `_`. -/
def isWordChar (c : Char) : Bool := c.isAlphanum || c = '-' || c = '_'

/-- A character that a text may hold. -/
def isAllowed (c : Char) : Bool :=
  let n := c.toNat
  n = 0x09 || n = 0x0A || n = 0x0D || (0x20 ≤ n && n ≤ 0x7E) || n = 0x85 ||
    (0xA0 ≤ n && n ≤ 0xFFFD) || 0x10000 ≤ n

/-- Whether a text ends here, or goes on with a blank or a break. -/
def isGap : List Char → Bool
  | [] => true
  | c :: _ => isBlank c || isBreak c

/-- What a line break stands for: the two Unicode separators for themselves, all others for a
newline. -/
def breakValue (c : Char) : Char := if c = '\u2028' ∨ c = '\u2029' then c else '\n'

/-! ## Cursors -/

structure Cursor where
  rest : List Char
  /-- How many characters are behind the cursor. -/
  index : Nat
  line : Nat
  column : Nat

abbrev Scan := StateT Cursor Option

namespace Cursor

def start (text : List Char) : Cursor := ⟨text, 0, 0, 0⟩

/-- Whether a line begins here with three hyphens, or three points, that stand alone. -/
def atDocumentMark (mark : Char) (c : Cursor) : Bool :=
  match c.rest with
  | x :: y :: z :: cs => c.column = 0 && x = mark && y = mark && z = mark && isGap cs
  | _ => false

end Cursor

namespace Scan

def peek : Scan (Option Char) := fun c => some (c.rest.head?, c)

def rest : Scan (List Char) := fun c => some (c.rest, c)

def column : Scan Nat := fun c => some (c.column, c)

/-- Goes over so many characters, none of which is a break. -/
def skip (n : Nat) : Scan Unit := fun c =>
  some ((), { c with rest := c.rest.drop n, index := c.index + n, column := c.column + n })

/-- Takes the characters up to the first that does not fit, or to the end of the line. -/
def takeWhile (fits : Char → Bool) : Scan (List Char) := fun c =>
  let taken := c.rest.takeWhile fun x => fits x && !isBreak x
  (skip taken.length c).map fun r => (taken, r.2)

/-- Goes over a line break and gives what it stands for. -/
def lineBreak : Scan Char := fun c =>
  match c.rest with
  | '\r' :: '\n' :: cs => some ('\n', ⟨cs, c.index + 2, c.line + 1, 0⟩)
  | x :: cs => if isBreak x then some (breakValue x, ⟨cs, c.index + 1, c.line + 1, 0⟩) else none
  | [] => none

def atBreak : Scan Bool := return (← peek).any isBreak

def atBlank : Scan Bool := return (← peek).any isBlank

/-- Goes over one certain character. -/
def expect (x : Char) : Scan Unit := do
  guard ((← peek) = some x)
  skip 1

/-- Goes over the blanks and the comment that a line ends with, up to its break. A comment needs
no blank in front of it. -/
def restOfLine : Scan Unit := do
  let _ ← takeWhile isBlank
  if (← peek) = some '#' then
    let _ ← takeWhile fun _ => true
  else
    guard (isGap (← rest))

/-- Whether a document starts or ends here. -/
def atDocumentMark : Scan Bool := fun c =>
  some (c.atDocumentMark '-' || c.atDocumentMark '.', c)

end Scan

end JsonTypes.Yaml
