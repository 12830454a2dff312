import JsonTypes.Yaml.Cursor

/-!
# Gaps between the words of a scalar

A scalar that runs over several lines is folded: one line break between two words stands for a
space, and of several breaks the first one is dropped. A break that is a Unicode separator is kept
as it is. Blanks around breaks do not count.
-/

namespace JsonTypes.Yaml

structure Gap where
  /-- The blanks, as long as there is no break. -/
  blanks : List Char
  /-- Whether the line ends in the gap. -/
  broken : Bool
  /-- The first break, unless it was escaped. -/
  first : Option Char
  /-- The further breaks. -/
  more : List Char

namespace Gap

def none : Gap := ⟨[], false, .none, []⟩

/-- A gap that starts with an escaped line break. -/
def escapedBreak : Gap := { none with broken := true }

/-- What a break and the breaks behind it stand for between two lines of text. -/
def fold (first : Option Char) (more : List Char) : List Char :=
  match first with
  | some '\n' => if more.isEmpty then [' '] else more
  | some c => c :: more
  | .none => more

/-- What the gap stands for in the scalar. -/
def text (g : Gap) : List Char := if g.broken then fold g.first g.more else g.blanks

def addBreak (g : Gap) (c : Char) : Gap :=
  if g.broken then { g with more := g.more ++ [c] }
  else { g with blanks := [], broken := true, first := some c }

/-- Goes on with a gap up to the next word. Behind a break no tab may stand before a column. -/
def loop (column : Nat) : Nat → Gap → Scan Gap
  | 0, g => pure g
  | fuel + 1, g => do
    match ← Scan.peek with
    | some c =>
      if isBlank c then
        guard (!(g.broken && c = '\t' && (← Scan.column) < column))
        Scan.skip 1
        loop column fuel (if g.broken then g else { g with blanks := g.blanks ++ [c] })
      else if isBreak c then loop column fuel (g.addBreak (← Scan.lineBreak))
      else pure g
    | .none => pure g

/-- The gap from here on. -/
def scan (column : Nat) (start : Gap) : Scan Gap := do
  loop column ((← Scan.rest).takeWhile fun c => isBlank c || isBreak c).length start

end Gap

end JsonTypes.Yaml
