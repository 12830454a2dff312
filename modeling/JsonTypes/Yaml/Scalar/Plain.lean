import JsonTypes.Yaml.Scalar.Gap

/-!
# Plain scalars

A scalar without quotes goes on to a colon with a gap behind it, to a comment after a gap, to a
line that is not indented enough, or to the mark of a document. Inside brackets it also ends at
the characters that brackets and their entries are made of.
-/

namespace JsonTypes.Yaml.Plain

def isFlowIndicator (c : Char) : Bool :=
  c = ',' || c = '[' || c = ']' || c = '\x7b' || c = '\x7d'

/-- Whether a colon inside brackets stands too close to what follows it. -/
def isMisplacedColon : List Char → Bool
  | ':' :: c :: _ => isFlowIndicator c || c = '?'
  | _ => false

/-- Whether a word ends here. -/
def isWordEnd (inFlow : Bool) : List Char → Bool
  | [] => true
  | ':' :: cs => isGap cs
  | c :: _ => isBlank c || isBreak c || (inFlow && isFlowIndicator c)

def word (inFlow : Bool) : Nat → List Char → Scan (List Char)
  | 0, taken => pure taken.reverse
  | fuel + 1, taken => do
    let cs ← Scan.rest
    guard (!(inFlow && isMisplacedColon cs))
    match cs with
    | c :: _ =>
      if isWordEnd inFlow cs then pure taken.reverse
      else Scan.skip 1; word inFlow fuel (c :: taken)
    | [] => pure taken.reverse

structure Result where
  text : List Char
  /-- Whether the line ended behind the last word. -/
  broken : Bool

/-- Words with the gaps before them. A line must reach the column, except inside brackets. -/
def body (inFlow : Bool) (column : Nat) : Nat → List Char → Gap → Scan Result
  | 0, taken, g => pure ⟨taken, g.broken⟩
  | fuel + 1, taken, g => do
    if ← Scan.atDocumentMark then pure ⟨taken, g.broken⟩
    else if (← Scan.peek) = some '#' then pure ⟨taken, g.broken⟩
    else
      let chars ← word inFlow fuel []
      let (taken, g) := if chars.isEmpty then (taken, g) else (taken ++ g.text ++ chars, .none)
      if (← Scan.rest).isEmpty || !isGap (← Scan.rest) then pure ⟨taken, g.broken⟩
      else
        let g ← Gap.scan column .none
        if !inFlow && (← Scan.column) < column then pure ⟨taken, g.broken⟩
        else body inFlow column fuel taken g

def scan (inFlow : Bool) (column : Nat) : Scan Result := do
  body inFlow column ((← Scan.rest).length + 1) [] .none

end JsonTypes.Yaml.Plain
