import JsonTypes.Yaml.Scalar.Gap

/-!
# Quoted scalars

Between single quotes only the quote is special; it is written twice. Between double quotes a
backslash starts an escape, and takes away a line break behind it. No document may start or end
inside quotes.
-/

namespace JsonTypes.Yaml.Quoted

/-- What a word ended with: something that is not part of it, or an escaped line break. -/
inductive WordEnd where
  | outside
  | escapedBreak

/-! ## Escapes -/

def shortEscape? (c : Char) : Option Char :=
  match c with
  | '0' => some '\x00'
  | 'a' => some '\x07'
  | 'b' => some '\x08'
  | 't' | '\t' => some '\t'
  | 'n' => some '\n'
  | 'v' => some '\x0b'
  | 'f' => some '\x0c'
  | 'r' => some '\r'
  | 'e' => some '\x1b'
  | ' ' => some ' '
  | '"' => some '"'
  | '/' => some '/'
  | '\\' => some '\\'
  | 'N' => some '\x85'
  | '_' => some '\xa0'
  | 'L' => some '\u2028'
  | 'P' => some '\u2029'
  | _ => none

/-- How many hexadecimal digits follow the letter of an escape. -/
def digitCount? (c : Char) : Option Nat :=
  match c with
  | 'x' => some 2
  | 'u' => some 4
  | 'U' => some 8
  | _ => none

def codePoint? (digits : List Char) : Option Char := do
  let n ← Text.numberInBase? 16 digits
  if h : n.isValidChar then some (Char.ofNatAux n h) else none

/-- What an escape stands for, after its backslash. -/
def escape : Scan Char := do
  match ← Scan.peek with
  | none => failure
  | some c =>
    match shortEscape? c, digitCount? c with
    | some x, _ => Scan.skip 1; pure x
    | none, some n =>
      Scan.skip 1
      let digits := (← Scan.rest).take n
      guard (digits.length = n)
      match codePoint? digits with
      | some x => Scan.skip n; pure x
      | none => failure
    | none, none => failure

/-! ## Words -/

def doubleWord : Nat → List Char → Scan (List Char × WordEnd)
  | 0, taken => pure (taken.reverse, .outside)
  | fuel + 1, taken => do
    match ← Scan.rest with
    | [] => pure (taken.reverse, .outside)
    | '"' :: _ => pure (taken.reverse, .outside)
    | '\\' :: cs =>
      Scan.skip 1
      if cs.head?.any isBreak then
        let _ ← Scan.lineBreak
        pure (taken.reverse, .escapedBreak)
      else doubleWord fuel ((← escape) :: taken)
    | c :: _ =>
      if isBlank c || isBreak c then pure (taken.reverse, .outside)
      else Scan.skip 1; doubleWord fuel (c :: taken)

def singleWord : Nat → List Char → Scan (List Char × WordEnd)
  | 0, taken => pure (taken.reverse, .outside)
  | fuel + 1, taken => do
    match ← Scan.rest with
    | '\'' :: '\'' :: _ => Scan.skip 2; singleWord fuel ('\'' :: taken)
    | '\'' :: _ => pure (taken.reverse, .outside)
    | c :: _ =>
      if isBlank c || isBreak c then pure (taken.reverse, .outside)
      else Scan.skip 1; singleWord fuel (c :: taken)
    | [] => pure (taken.reverse, .outside)

/-- Words and gaps up to the closing quote. -/
def body (quote : Char) (word : Scan (List Char × WordEnd)) : Nat → List Char → Scan (List Char)
  | 0, _ => failure
  | fuel + 1, taken => do
    guard (!(← Scan.atDocumentMark))
    guard (!(← Scan.rest).isEmpty)
    let (chars, wordEnd) ← word
    if (← Scan.peek) = some quote then
      Scan.skip 1
      pure (taken ++ chars)
    else
      let g ← Gap.scan 0 (match wordEnd with
        | .outside => .none
        | .escapedBreak => .escapedBreak)
      body quote word fuel (taken ++ chars ++ g.text)

def double : Scan (List Char) := do
  Scan.skip 1
  let n := (← Scan.rest).length + 1
  body '"' (doubleWord n []) n []

def single : Scan (List Char) := do
  Scan.skip 1
  let n := (← Scan.rest).length + 1
  body '\'' (singleWord n []) n []

end JsonTypes.Yaml.Quoted
