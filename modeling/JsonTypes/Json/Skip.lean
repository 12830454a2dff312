import JsonTypes.Json.Scan

/-!
# Skipping JSON text

A value that nobody asked for is skipped without being built: its brackets must match and its
scalars must have the right form, but it may nest to any depth, its numbers may be of any size and
its escapes may be any four hexadecimal digits.
-/

namespace JsonTypes.Json

def skipEscape : Scan Unit := do
  match ← peek with
  | none => fail .eofString
  | some 'u' =>
    drop
    let _ ← hexFour
  | some c =>
    match shortEscape? c with
    | some _ => drop
    | none => failAfterByte .invalidEscape

def skipStringLoop : Nat → Scan Unit
  | 0 => fail .eofString
  | fuel + 1 => do
    match ← peek with
    | none => fail .eofString
    | some '"' => drop
    | some '\\' => drop; skipEscape; skipStringLoop fuel
    | some c =>
      if c.toNat < 0x20 then fail .controlCharacter
      else drop; skipStringLoop fuel

def skipString : Scan Unit := fun cs => skipStringLoop (cs.length + 1) cs

def skipExponent : Scan Unit := do
  drop
  match ← peek with
  | some '+' => drop
  | some '-' => drop
  | _ => pure ()
  match ← peek with
  | none => fail .invalidNumber
  | some c =>
    if isDigit c then
      let _ ← skipDigits
    else failAfterByte .invalidNumber

def skipFraction : Scan Unit := do
  drop
  let count ← skipDigits
  if count = 0 then failPeeked .invalidNumber
  else if isExponentLetter (← peek) then skipExponent

/-- A number, after its sign. -/
def skipNumber : Scan Unit := do
  match ← peek with
  | none => fail .invalidNumber
  | some c =>
    if c = '0' then
      drop
      if ← nextIsDigit then failPeeked .invalidNumber
    else if isDigit c then
      let _ ← skipDigits
    else failAfterByte .invalidNumber
  match ← peek with
  | some '.' => skipFraction
  | c => if isExponentLetter c then skipExponent

/-- What stands next inside the open brackets: a value, or what follows a bracket or a value, where
`comma` says whether a comma may come. -/
inductive Awaiting where
  | value
  | continuation (comma : Bool)

def skipKey : Scan Unit := do
  match ← peekPastBlanks with
  | some '"' => drop
  | some _ => failPeeked .keyNotString
  | none => failPeeked .eofObject
  skipString
  colon

/-- Skips what is left of a value whose open brackets are given, the innermost first. -/
def skipLoop : Nat → List Char → Awaiting → Scan Unit
  | 0, _, _ => fail .eofValue
  | fuel + 1, opened, .value => do
    match ← peekPastBlanks with
    | none => failPeeked .eofValue
    | some 'n' => drop; word ['u', 'l', 'l']; skipLoop fuel opened (.continuation true)
    | some 't' => drop; word ['r', 'u', 'e']; skipLoop fuel opened (.continuation true)
    | some 'f' => drop; word ['a', 'l', 's', 'e']; skipLoop fuel opened (.continuation true)
    | some '-' => drop; skipNumber; skipLoop fuel opened (.continuation true)
    | some '"' => drop; skipString; skipLoop fuel opened (.continuation true)
    | some '[' => drop; skipLoop fuel ('[' :: opened) (.continuation false)
    | some '\x7b' => drop; skipLoop fuel ('\x7b' :: opened) (.continuation false)
    | some c =>
      if isDigit c then skipNumber; skipLoop fuel opened (.continuation true)
      else failPeeked .expectedValue
  | _, [], .continuation _ => pure ()
  | fuel + 1, bracket :: outer, .continuation comma => do
    let inList := bracket = '['
    let nextItem : Scan Unit := do
      unless inList do skipKey
      skipLoop fuel (bracket :: outer) .value
    match ← peekPastBlanks with
    | none => failPeeked (if inList then .eofList else .eofObject)
    | some c =>
      if c = ',' ∧ comma then drop; nextItem
      else if c = (if inList then ']' else '\x7d') then
        drop
        skipLoop fuel outer (.continuation true)
      else if comma then
        failPeeked (if inList then .expectedListCommaOrEnd else .expectedObjectCommaOrEnd)
      else nextItem

def skipValue : Scan Unit := fun cs => skipLoop (2 * cs.length + 2) [] .value cs

end JsonTypes.Json
