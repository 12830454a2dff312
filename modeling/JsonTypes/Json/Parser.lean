import JsonTypes.Json.Scan

/-!
# Parsing JSON text

A value may hold values to a depth of 127; the parser recurses on how many levels are left. Of two
members of one key the later gives the value and the earlier the place.
-/

namespace JsonTypes.Json

def maxNesting : Nat := 127

def elements (item : Scan Json) : Nat → Bool → List Json → Scan Json
  | 0, _, _ => fail .eofList
  | fuel + 1, first, taken => do
    if ← anotherElement first then
      elements item fuel false ((← item) :: taken)
    else
      drop
      pure (.array taken.reverse)

def members (item : Scan Json) : Nat → Bool → Entries String Json → Scan Json
  | 0, _, _ => fail .eofObject
  | fuel + 1, first, taken => do
    if ← anotherMember first then
      let k ← key
      colon
      members item fuel false (taken.put k (← item))
    else
      drop
      pure (.object taken)

/-- A value, given the scan for the values in it; without one it must not hold any. -/
def valueOver (inner : Option (Scan Json)) : Scan Json := do
  match ← peekPastBlanks with
  | none => failPeeked .eofValue
  | some 'n' => drop; word ['u', 'l', 'l']; pure .null
  | some 't' => drop; word ['r', 'u', 'e']; pure (.bool true)
  | some 'f' => drop; word ['a', 'l', 's', 'e']; pure (.bool false)
  | some '-' => drop; return .number (← numberBody true)
  | some '"' => drop; return .string (← stringBody)
  | some '[' =>
    match inner with
    | none => failPeeked .recursionLimit
    | some item => drop; fun cs => elements item (cs.length + 1) true [] cs
  | some '\x7b' =>
    match inner with
    | none => failPeeked .recursionLimit
    | some item => drop; fun cs => members item (cs.length + 1) true [] cs
  | some c =>
    if isDigit c then return .number (← numberBody false)
    else failPeeked .expectedValue

/-- A value that may nest so many levels deep. -/
def value : Nat → Scan Json
  | 0 => valueOver none
  | depth + 1 => valueOver (some (value depth))

/-- Runs a scan over a whole text. -/
def Scan.complete {α : Type} (scan : Scan α) (text : List Text.Symbol) : Except String α :=
  match (do let a ← scan; endOfText; pure a : Scan α).run text with
  | .ok (a, _) => .ok a
  | .error stop => .error (stop.describe text)

def parse (text : String) : Except String Json := (value maxNesting).complete (Text.Symbol.ofText text)

def parseBytes (bytes : List UInt8) : Except String Json :=
  (value maxNesting).complete (Text.Symbol.ofBytes bytes)

end JsonTypes.Json
