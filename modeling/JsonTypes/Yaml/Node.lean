import JsonTypes.Entries
import JsonTypes.Yaml.Token

/-!
# Nodes of YAML

The nodes of a document, read off its tokens. An anchor has a number: how many names there were
before it. A name that is used again gets a new number, and keeps its one place among the names; so
it may be that a later anchor gets that number too, and then the later anchor counts, also for an
alias that stands before it.
-/

namespace JsonTypes.Yaml

/-- What may stand in front of a node. -/
structure Properties where
  anchor : Option Nat
  tag : Option (List UInt8)
deriving DecidableEq, Repr

inductive Node where
  | aliasOf (anchor : Nat)
  | scalar (props : Properties) (text : String) (plain : Bool)
  | sequence (props : Properties) (items : List Node)
  | mapping (props : Properties) (entries : List (Node × Node))

namespace Node

/-- What stands where a node is left out. -/
def absent (props : Properties) : Node := scalar props "" true

def anchor? : Node → Option Nat
  | aliasOf _ => none
  | scalar props _ _ => props.anchor
  | sequence props _ => props.anchor
  | mapping props _ => props.anchor

mutual

/-- The nodes with an anchor, in the order in which they start. -/
def anchored : Node → List (Nat × Node)
  | sequence props items =>
    (props.anchor.map fun n => (n, sequence props items)).toList ++ anchoredItems items
  | mapping props entries =>
    (props.anchor.map fun n => (n, mapping props entries)).toList ++ anchoredEntries entries
  | v => (v.anchor?.map fun n => (n, v)).toList

def anchoredItems : List Node → List (Nat × Node)
  | [] => []
  | v :: rest => anchored v ++ anchoredItems rest

def anchoredEntries : List (Node × Node) → List (Nat × Node)
  | [] => []
  | (k, v) :: rest => anchored k ++ anchored v ++ anchoredEntries rest

end

mutual

/-- How many steps it takes to read the node off: one for its start, and one for its end if it can
hold others. -/
def size : Node → Nat
  | sequence _ items => 2 + sizeItems items
  | mapping _ entries => 2 + sizeEntries entries
  | _ => 1

def sizeItems : List Node → Nat
  | [] => 0
  | v :: rest => size v + sizeItems rest

def sizeEntries : List (Node × Node) → Nat
  | [] => 0
  | (k, v) :: rest => size k + size v + sizeEntries rest

end

/-! ## Reading -/

/-- Where a node stands: in a sequence or at the root, as the key or value of a mapping, or inside
brackets. Only the second lets a sequence start without its block. -/
inductive Setting where
  | entry
  | member
  | flow
deriving DecidableEq

structure Reading where
  tokens : List Token
  anchors : Entries String Nat

abbrev Read := StateT Reading Option

def peek : Read (Option Token) := return (← get).tokens.head?

def drop : Read Unit := modify fun r => { r with tokens := r.tokens.tail }

/-- Whether one of these tokens is next. -/
def sees (ts : List Token) : Read Bool := return (← peek).any (ts.contains ·)

def number (name : String) : Read Nat := do
  let anchors := (← get).anchors
  modify fun r => { r with anchors := anchors.put name anchors.length }
  return anchors.length

def anchorName : Read (Option String) := do
  match ← peek with
  | some (.anchor name) => drop; pure (some name)
  | _ => pure none

def tag : Read (Option Tag) := do
  match ← peek with
  | some (.tag t) => drop; pure (some t)
  | _ => pure none

abbrev Handles := List (List Char × List UInt8)

/-- An anchor and a tag, in any order, each of which may be missing. -/
def properties (handles : Handles) : Read Properties := do
  let before ← anchorName
  let written ← tag
  let after ← if before.isNone ∧ written.isSome then anchorName else pure none
  let tag ← match written with
    | none => pure none
    | some t =>
      match t.resolve? handles with
      | some bytes => pure (some bytes)
      | none => failure
  match before.or after with
  | some name => return ⟨some (← number name), tag⟩
  | none => return ⟨none, tag⟩

section Collections

variable (item : Setting → Read Node)

/-- The node before one of these tokens, or an absent one. -/
def itemBefore (setting : Setting) (ends : List Token) : Read Node := do
  if ← sees ends then pure (absent ⟨none, none⟩) else item setting

def blockItems : Nat → List Node → Read (List Node)
  | 0, _ => failure
  | fuel + 1, taken => do
    match ← peek with
    | some .blockEntry =>
      drop
      let v ← itemBefore item .entry [.blockEntry, .blockEnd]
      blockItems fuel (v :: taken)
    | some .blockEnd => drop; pure taken.reverse
    | _ => failure

/-- The items of a sequence that is indented no further than the mapping around it. -/
def bareItems : Nat → List Node → Read (List Node)
  | 0, _ => failure
  | fuel + 1, taken => do
    match ← peek with
    | some .blockEntry =>
      drop
      let v ← itemBefore item .entry [.blockEntry, .key, .value, .blockEnd]
      bareItems fuel (v :: taken)
    | _ => pure taken.reverse

/-- A value with its indicator, or an absent one. -/
def valueBefore (setting : Setting) (ends : List Token) : Read Node := do
  if ← sees [.value] then
    drop
    itemBefore item setting ends
  else pure (absent ⟨none, none⟩)

def blockEntries : Nat → List (Node × Node) → Read (List (Node × Node))
  | 0, _ => failure
  | fuel + 1, taken => do
    match ← peek with
    | some .key =>
      drop
      let k ← itemBefore item .member [.key, .value, .blockEnd]
      let v ← valueBefore item .member [.key, .value, .blockEnd]
      blockEntries fuel ((k, v) :: taken)
    | some .blockEnd => drop; pure taken.reverse
    | _ => failure

/-- Goes over the comma before every entry but the first. -/
def separator (first : Bool) : Read Unit := do
  unless first do
    guard (← sees [.flowEntry])
    drop

/-- A mapping of one entry, written without brackets in a sequence. A key that is left out takes
the next token with it. -/
def pair : Read Node := do
  let k ← if ← sees [.value, .flowEntry, .flowSequenceEnd] then
      drop
      pure (absent ⟨none, none⟩)
    else item .flow
  let v ← valueBefore item .flow [.flowEntry, .flowSequenceEnd]
  return mapping ⟨none, none⟩ [(k, v)]

def flowItems : Nat → Bool → List Node → Read (List Node)
  | 0, _, _ => failure
  | fuel + 1, first, taken => do
    if ← sees [.flowSequenceEnd] then drop; pure taken.reverse
    else
      separator first
      match ← peek with
      | some .key =>
        drop
        let v ← pair item
        flowItems fuel false (v :: taken)
      | some .flowSequenceEnd => drop; pure taken.reverse
      | _ =>
        let v ← item .flow
        flowItems fuel false (v :: taken)

def flowEntries : Nat → Bool → List (Node × Node) → Read (List (Node × Node))
  | 0, _, _ => failure
  | fuel + 1, first, taken => do
    if ← sees [.flowMappingEnd] then drop; pure taken.reverse
    else
      separator first
      match ← peek with
      | some .key =>
        drop
        let k ← itemBefore item .flow [.value, .flowEntry, .flowMappingEnd]
        let v ← valueBefore item .flow [.flowEntry, .flowMappingEnd]
        flowEntries fuel false ((k, v) :: taken)
      | some .flowMappingEnd => drop; pure taken.reverse
      | _ =>
        let k ← item .flow
        flowEntries fuel false ((k, absent ⟨none, none⟩) :: taken)

end Collections

/-- A collection that starts with the next token, given how its items are read. -/
def collection? (item : Setting → Read Node) (setting : Setting) (props : Properties) :
    Read (Option Node) := do
  let fuel := (← get).tokens.length + 1
  match ← peek with
  | some .flowSequence => drop; return some (sequence props (← flowItems item fuel true []))
  | some .flowMapping => drop; return some (mapping props (← flowEntries item fuel true []))
  | some .blockSequence =>
    if setting = .flow then pure none
    else drop; return some (sequence props (← blockItems item fuel []))
  | some .blockMapping =>
    if setting = .flow then pure none
    else drop; return some (mapping props (← blockEntries item fuel []))
  | some .blockEntry =>
    if setting = .member then return some (sequence props (← bareItems item fuel []))
    else pure none
  | _ => pure none

/-- A node that is no alias. -/
def content (inner : Option (Setting → Read Node)) (setting : Setting) (props : Properties) :
    Read Node := do
  match ← peek with
  | some (.scalar text plain) =>
    drop
    return scalar props text plain
  | _ =>
    match ← collection? (inner.getD fun _ => failure) setting props with
    | some v =>
      guard inner.isSome
      pure v
    | none =>
      guard (props.anchor.isSome || props.tag.isSome)
      return absent props

/-- A node, given how those in it are read; without that it must not be a collection. -/
def nodeOver (handles : Handles) (inner : Option (Setting → Read Node)) (setting : Setting) :
    Read Node := do
  match ← peek with
  | some (.aliasOf name) =>
    match (← get).anchors.get? name with
    | some n => drop; return .aliasOf n
    | none => failure
  | _ =>
    let props ← properties handles
    content inner setting props

/-- How many levels collections may nest. -/
def maxNesting : Nat := 128

/-- A node in which collections nest so many levels deep at most. -/
def node (handles : Handles) : Nat → Setting → Read Node
  | 0 => nodeOver handles none
  | depth + 1 => nodeOver handles (some (node handles depth))

/-! ## Documents -/

/-- What the directives of a document declare. -/
structure Declared where
  hasVersion : Bool
  handles : Handles

def declare (d : Declared) : Directive → Option Declared
  | .version major minor =>
    if d.hasVersion ∨ major ≠ 1 ∨ (minor ≠ 1 ∧ minor ≠ 2) then none
    else some { d with hasVersion := true }
  | .tag handle stem =>
    if d.handles.any (·.1 = handle) then none
    else some { d with handles := d.handles ++ [(handle, stem)] }

/-- The directives that a document starts with. -/
def directives : List Token → Declared → Option (Declared × List Token)
  | .directive d :: rest, declared => (declare declared d).bind (directives rest)
  | rest, declared => some (declared, rest)

def startsContent : List Token → Bool
  | [] => false
  | .directive _ :: _ | .documentStart :: _ | .documentEnd :: _ => false
  | _ => true

/-- The root of a document whose directives are read, and the tokens behind it. -/
def root (handles : Handles) (ts : List Token) : Option (Node × List Token) := do
  let (v, r) ← (node handles maxNesting .entry).run ⟨ts, []⟩
  return (v, r.tokens)

/-- The one document that the tokens make, or nothing where there are none. -/
def ofTokens? (ts : List Token) : Option (Option Node) := do
  if ts.isEmpty then return none
  let (declared, rest) ← directives ts ⟨false, []⟩
  let handles := declared.handles ++ Tag.standardHandles
  let (v, rest) ← match rest with
    | .documentStart :: rest =>
      if startsContent rest then root handles rest else pure (absent ⟨none, none⟩, rest)
    | rest => do
      guard (rest.length = ts.length)
      root handles rest
  guard (rest.all (· = .documentEnd))
  return some v

end Node

end JsonTypes.Yaml
