import JsonTypes.Yaml.Scalar.Gap

/-!
# Block scalars

A block scalar consists of the lines below its head that are indented as much as the first of
them, or as the head says. A literal one keeps its line breaks; a folded one joins lines that do
not start with a blank. The head also says what becomes of the breaks at the end: one is kept, or
all, or none.
-/

namespace JsonTypes.Yaml.Block

inductive Chomping where
  | strip
  | clip
  | keep

structure Head where
  chomping : Chomping
  /-- How much further than the block around it the scalar is indented. -/
  increment : Option Nat

def chomping? : Scan (Option Chomping) := do
  match ← Scan.peek with
  | some '+' => Scan.skip 1; pure (some .keep)
  | some '-' => Scan.skip 1; pure (some .strip)
  | _ => pure none

def increment? : Scan (Option Nat) := do
  match (← Scan.peek).bind Text.asciiDigit? with
  | some n =>
    guard (n ≠ 0)
    Scan.skip 1
    pure (some n)
  | none => pure none

/-- The head, after the indicator, and the end of its line. -/
def head : Scan Head := do
  let before ← chomping?
  let increment ← increment?
  let after ← match before, increment with
    | none, some _ => chomping?
    | _, _ => pure none
  Scan.restOfLine
  if ← Scan.atBreak then
    let _ ← Scan.lineBreak
  pure ⟨(before.or after).getD .clip, increment⟩

/-- Goes over empty lines and the indentation of the next line, which is at most that of the
scalar, where it is known. Gives the breaks and the widest indentation met. -/
def emptyLines (indent : Option Nat) : Nat → Nat → List Char → Scan (Nat × List Char)
  | 0, widest, breaks => pure (widest, breaks)
  | fuel + 1, widest, breaks => do
    let spaces := ((← Scan.rest).takeWhile (· = ' ')).length
    let start ← Scan.column
    Scan.skip (match indent with
      | some n => min spaces (n - start)
      | none => spaces)
    let column ← Scan.column
    guard (!((← Scan.peek) = some '\t' && indent.all (column < ·)))
    let widest := max widest column
    if ← Scan.atBreak then emptyLines indent fuel widest (breaks ++ [← Scan.lineBreak])
    else pure (widest, breaks)

/-- What has been read of the lines of a scalar. -/
structure Lines where
  text : List Char
  /-- The break of the last line. -/
  last : Option Char
  /-- The empty lines behind it. -/
  more : List Char
  /-- Whether the last line starts with a blank. -/
  startsBlank : Bool

namespace Lines

/-- The text up to the next line, which may start with a blank. -/
def joined (literal nextBlank : Bool) (ls : Lines) : List Char :=
  if !literal && ls.last = some '\n' && !ls.startsBlank && !nextBlank then
    ls.text ++ Gap.fold ls.last ls.more
  else ls.text ++ ls.last.toList ++ ls.more

def chomped (c : Chomping) (ls : Lines) : List Char :=
  match c with
  | .strip => ls.text
  | .clip => ls.text ++ ls.last.toList
  | .keep => ls.text ++ ls.last.toList ++ ls.more

end Lines

def lines (literal : Bool) (indent : Nat) : Nat → Lines → Scan Lines
  | 0, ls => pure ls
  | fuel + 1, ls => do
    if (← Scan.column) = indent ∧ ¬(← Scan.rest).isEmpty then
      let blank ← Scan.atBlank
      let chars ← Scan.takeWhile fun _ => true
      let last ← if ← Scan.atBreak then some <$> Scan.lineBreak else pure none
      let (_, more) ← emptyLines (some indent) ((← Scan.rest).length + 1) 0 []
      lines literal indent fuel ⟨ls.joined literal blank ++ chars, last, more, blank⟩
    else pure ls

/-- A block scalar, after its indicator, in a block whose entries start in some column. -/
def scan (literal : Bool) (parent : Option Nat) : Scan (List Char) := do
  let h ← head
  let given := h.increment.map (parent.getD 0 + ·)
  let (widest, more) ← emptyLines given ((← Scan.rest).length + 1) 0 []
  let least := match parent with
    | some column => column + 1
    | none => 1
  let indent := given.getD (max widest least)
  let ls ← lines literal indent ((← Scan.rest).length + 1) ⟨[], none, more, false⟩
  pure (ls.chomped h.chomping)

end JsonTypes.Yaml.Block
