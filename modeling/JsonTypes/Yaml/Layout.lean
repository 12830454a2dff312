import JsonTypes.Yaml.Scalar.Block
import JsonTypes.Yaml.Scalar.Plain
import JsonTypes.Yaml.Scalar.Quoted
import JsonTypes.Yaml.Token

/-!
# The layout of a text

A text is laid out in tokens. Outside brackets a token opens a block when it starts further right
than the blocks that are open, and closes those that it starts left of.

Whether something is a key shows only at the colon behind it, on the same line and at most 1024
characters on. So each token is a piece with the tokens that turn out to stand before it. At the
column of the innermost block the colon has to come.
-/

namespace JsonTypes.Yaml

structure Piece where
  before : List Token
  token : Token

/-- A place where a key may have started. -/
structure KeyPlace where
  /-- The number of the piece that it starts with. -/
  piece : Nat
  /-- Whether it has to be a key. -/
  required : Bool
  index : Nat
  line : Nat
  column : Nat

structure Layout where
  cursor : Cursor
  pieces : Array Piece
  /-- The columns of the open blocks, the innermost first. -/
  columns : List Nat
  /-- Where a key may have started inside the innermost brackets. -/
  keyPlace : Option KeyPlace
  /-- The same for the brackets around them, and for the text outside all brackets. -/
  outerPlaces : List (Option KeyPlace)
  /-- Whether a key may start here. -/
  keyAllowed : Bool

abbrev Lay := StateT Layout Option

namespace Layout

def start (c : Cursor) : Layout := ⟨c, #[], [], none, [], true⟩

def inFlow (l : Layout) : Bool := !l.outerPlaces.isEmpty

/-- The least column in which a block inside the innermost one can start. -/
def leastColumn (l : Layout) : Nat :=
  match l.columns with
  | [] => 0
  | column :: _ => column + 1

def tokens (l : Layout) : List Token := l.pieces.toList.flatMap fun p => p.before ++ [p.token]

end Layout

namespace Lay

def scanning {α : Type} (scan : Scan α) : Lay α := fun l =>
  (scan l.cursor).map fun (a, c) => (a, { l with cursor := c })

def peek : Lay (Option Char) := scanning Scan.peek

def skip (n : Nat) : Lay Unit := scanning (Scan.skip n)

def put (t : Token) : Lay Unit := modify fun l => { l with pieces := l.pieces.push ⟨[], t⟩ }

def allowKey (allowed : Bool) : Lay Unit := modify fun l => { l with keyAllowed := allowed }

def inFlow : Lay Bool := return (← get).inFlow

def column : Lay Nat := return (← get).cursor.column

/-! ## Keys -/

/-- Gives up the place where a key may have started. -/
def dropKeyPlace : Lay Unit := do
  guard (!(← get).keyPlace.any (·.required))
  modify fun l => { l with keyPlace := none }

/-- Notes that a key may start here. -/
def markKeyPlace : Lay Unit := do
  if (← get).keyAllowed then
    dropKeyPlace
    modify fun l =>
      let c := l.cursor
      let required := !l.inFlow && l.columns.head? = some c.column
      { l with keyPlace := some ⟨l.pieces.size, required, c.index, c.line, c.column⟩ }

/-- How far a colon may be from the start of its key. -/
def maxKeyLength : Nat := 1024

def isStale (c : Cursor) (place : KeyPlace) : Bool :=
  place.line < c.line || place.index + maxKeyLength < c.index

/-- Gives up the places that are too far back. -/
def dropStalePlaces : Lay Unit := do
  let l ← get
  let stale (place : Option KeyPlace) : Bool := place.any (isStale l.cursor)
  guard ((l.keyPlace :: l.outerPlaces).all fun place => !(stale place && place.any (·.required)))
  let keep (place : Option KeyPlace) : Option KeyPlace := if stale place then none else place
  set { l with keyPlace := keep l.keyPlace, outerPlaces := l.outerPlaces.map keep }

/-! ## Blocks -/

/-- Opens a block in a column, unless one that reaches so far is open. -/
def openBlock (t : Token) (column : Nat) : Lay Unit := do
  let l ← get
  if !l.inFlow && l.leastColumn ≤ column then
    set { l with columns := column :: l.columns }
    put t

def closeBlocks (column : Nat) : List Nat → Lay Unit
  | [] => pure ()
  | c :: outer => do
    if column < c then
      modify fun l => { l with columns := outer }
      put .blockEnd
      closeBlocks column outer

/-- Closes the blocks that are further right than a column. -/
def closeBlocksAfter (column : Nat) : Lay Unit := do
  let l ← get
  unless l.inFlow do closeBlocks column l.columns

def closeAllBlocks : List Nat → Lay Unit
  | [] => modify fun l => { l with columns := [] }
  | _ :: outer => do
    put .blockEnd
    closeAllBlocks outer

/-- Closes all blocks where a document starts or ends. -/
def leaveDocument : Lay Unit := do
  let l ← get
  unless l.inFlow do closeAllBlocks l.columns
  dropKeyPlace
  allowKey false

/-! ## Tokens -/

def documentMark (t : Token) : Lay Unit := do
  leaveDocument
  skip 3
  put t

def directive : Lay Unit := do
  leaveDocument
  put (.directive (← scanning Directive.scan))

def flowStart (t : Token) : Lay Unit := do
  markKeyPlace
  modify fun l => { l with outerPlaces := l.keyPlace :: l.outerPlaces, keyPlace := none }
  allowKey true
  skip 1
  put t

def flowEnd (t : Token) : Lay Unit := do
  dropKeyPlace
  modify fun l =>
    match l.outerPlaces with
    | [] => l
    | place :: outer => { l with keyPlace := place, outerPlaces := outer }
  allowKey false
  skip 1
  put t

def flowEntry : Lay Unit := do
  dropKeyPlace
  allowKey true
  skip 1
  put .flowEntry

/-- Opens the block that an indicator stands in, where a key may start. -/
def openBlockHere (t : Token) : Lay Unit := do
  unless ← inFlow do
    guard (← get).keyAllowed
    openBlock t (← column)

def blockEntry : Lay Unit := do
  openBlockHere .blockSequence
  dropKeyPlace
  allowKey true
  skip 1
  put .blockEntry

def key : Lay Unit := do
  openBlockHere .blockMapping
  dropKeyPlace
  allowKey !(← inFlow)
  skip 1
  put .key

/-- Puts the token of a key before the piece that it starts with, and opens its block. -/
def keyBefore (place : KeyPlace) : Lay Unit := do
  let l ← get
  let opens := !l.inFlow && l.leastColumn ≤ place.column
  let before := if opens then [Token.blockMapping, .key] else [.key]
  set { l with
    columns := if opens then place.column :: l.columns else l.columns
    pieces := l.pieces.modify place.piece fun p => { p with before := before }
    keyPlace := none }

def value : Lay Unit := do
  match (← get).keyPlace with
  | some place =>
    keyBefore place
    allowKey false
  | none =>
    openBlockHere .blockMapping
    allowKey !(← inFlow)
  skip 1
  put .value

def anchorName : Scan String := do
  Scan.skip 1
  let name ← Scan.takeWhile isWordChar
  let rest ← Scan.rest
  guard (name ≠ [] ∧ (isGap rest ∨ rest.head?.any ("?:,]\x7d%@\x60".toList.contains ·)))
  return String.ofList name

/-- A token that may be the start of a key. -/
def keyable (scan : Scan Token) : Lay Unit := do
  markKeyPlace
  allowKey false
  put (← scanning scan)

def blockScalar (literal : Bool) : Lay Unit := do
  dropKeyPlace
  allowKey true
  skip 1
  let chars ← scanning (Block.scan literal (← get).columns.head?)
  put (.scalar (String.ofList chars) false)

def quotedScalar (scan : Scan (List Char)) : Lay Unit :=
  keyable do return .scalar (String.ofList (← scan)) false

def plainScalar : Lay Unit := do
  markKeyPlace
  allowKey false
  let l ← get
  let result ← scanning (Plain.scan l.inFlow l.leastColumn)
  put (.scalar (String.ofList result.text) true)
  if result.broken then allowKey true

/-- Goes over blanks, comments and line breaks, and over a byte order mark that a line starts with.
A tab is no blank where a key may start, except inside brackets. -/
def skipToToken : Nat → Lay Unit
  | 0 => pure ()
  | fuel + 1 => do
    let l ← get
    if l.cursor.column = 0 ∧ l.cursor.rest.head? = some '\uFEFF' then skip 1
    let tabs := l.inFlow || !l.keyAllowed
    let _ ← scanning (Scan.takeWhile fun c => c = ' ' || (tabs && c = '\t'))
    if (← peek) = some '#' then
      let _ ← scanning (Scan.takeWhile fun _ => true)
    if ← scanning Scan.atBreak then
      let _ ← scanning Scan.lineBreak
      unless l.inFlow do allowKey true
      skipToToken fuel

/-- Whether a plain scalar can start here. -/
def startsPlain (inFlow : Bool) : List Char → Bool
  | [] => false
  | c :: cs =>
    if c = '-' then !cs.head?.any isBlank
    else if c = '?' ∨ c = ':' then !inFlow && !isGap cs
    else !isGap (c :: cs) && !"-?:,[]\x7b\x7d#&*!|>'\"%@\x60".toList.contains c

/-- The token that starts here; outside brackets, blocks may open or close before it. -/
def next (flow : Bool) (c : Char) (cs : List Char) : Lay Unit :=
  let indicates := flow || isGap cs
  if c = '[' then flowStart .flowSequence
  else if c = '\x7b' then flowStart .flowMapping
  else if c = ']' then flowEnd .flowSequenceEnd
  else if c = '\x7d' then flowEnd .flowMappingEnd
  else if c = ',' then flowEntry
  else if c = '-' ∧ isGap cs then blockEntry
  else if c = '?' ∧ indicates then key
  else if c = ':' ∧ indicates then value
  else if c = '*' then keyable do return .aliasOf (← anchorName)
  else if c = '&' then keyable do return .anchor (← anchorName)
  else if c = '!' then keyable do return .tag (← Tag.scan flow)
  else if c = '|' ∧ !flow then blockScalar true
  else if c = '>' ∧ !flow then blockScalar false
  else if c = '\'' then quotedScalar Quoted.single
  else if c = '"' then quotedScalar Quoted.double
  else if startsPlain flow (c :: cs) then plainScalar
  else failure

/-- Lays out the text up to its end. -/
def all : Nat → Lay Unit
  | 0 => failure
  | fuel + 1 => do
    skipToToken (fuel + 1)
    dropStalePlaces
    closeBlocksAfter (← column)
    let l ← get
    match l.cursor.rest with
    | [] => leaveDocument
    | c :: cs =>
      if l.cursor.column = 0 ∧ c = '%' then directive
      else if l.cursor.atDocumentMark '-' then documentMark .documentStart
      else if l.cursor.atDocumentMark '.' then documentMark .documentEnd
      else next l.inFlow c cs
      all fuel

end Lay

/-- The tokens of a text. -/
def tokens? (text : List Char) : Option (List Token) := do
  guard (text.all isAllowed)
  let (_, l) ← (Lay.all (text.length + 2)).run (.start (Cursor.start text))
  return l.tokens

end JsonTypes.Yaml
