import JsonTypes.Json.Parser
import JsonTypes.Json.Skip
import JsonTypes.Text.Quoted

/-!
# Decoding JSON

A decoder turns JSON into a value of a type, from a JSON value (`ofJson`) or straight from text
(`ofText`). Text is decoded as it is scanned: the first thing that does not fit is reported, even
if the text is broken further on, and members that were not asked for are skipped.

A record is an object with named members, or a list of the members' values in order. A choice
among named alternatives is an object with one member, or just the name where nothing belongs to
the alternative.
-/

namespace JsonTypes

open Json

structure Decoder (α : Type) where
  ofJson : Json → Except String α
  /-- Reads a value that may nest so many levels deep. -/
  scan : Nat → Scan α

namespace Decoder

variable {α β σ : Type}

def ofText (d : Decoder α) (text : String) : Except String α :=
  (d.scan maxNesting).complete (Text.Symbol.ofText text)

def describeNumber : Number → String
  | .integer n => "integer `" ++ toString n ++ "`"
  | .double x => "floating point `" ++ x.render ++ "`"

/-- A value as a message names it. -/
def describe : Json → String
  | .null => "null"
  | .bool b => "boolean `" ++ toString b ++ "`"
  | .number n => describeNumber n
  | .string s => "string " ++ Text.quoted s
  | .array _ => "sequence"
  | .object _ => "map"

def wrongType (found wanted : String) : String :=
  "invalid type: " ++ found ++ ", expected " ++ wanted

def wrongLength (length : Nat) (wanted : String) : String :=
  "invalid length " ++ toString length ++ ", expected " ++ wanted

def missingField (name : String) : String := "missing field `" ++ name ++ "`"

def duplicateField (name : String) : String := "duplicate field `" ++ name ++ "`"

def unknownVariant (name : String) (names : List String) : String :=
  "unknown variant `" ++ name ++ "`, " ++ Text.alternatives names

def elementCount (n : Nat) : String :=
  toString n ++ (if n = 1 then " element" else " elements")

/-- Reads enough of the value ahead to say what was found where something else was wanted. -/
def scanMismatch (wanted : String) : Scan α := placed do
  match ← peek with
  | some 'n' => drop; word ['u', 'l', 'l']; failUnplaced (wrongType "null" wanted)
  | some 't' =>
    drop; word ['r', 'u', 'e']; failUnplaced (wrongType (describe (.bool true)) wanted)
  | some 'f' =>
    drop; word ['a', 'l', 's', 'e']; failUnplaced (wrongType (describe (.bool false)) wanted)
  | some '-' => drop; failUnplaced (wrongType (describeNumber (← numberBody true)) wanted)
  | some '"' => drop; failUnplaced (wrongType (describe (.string (← stringBody))) wanted)
  | some '[' => failUnplaced (wrongType "sequence" wanted)
  | some '\x7b' => failUnplaced (wrongType "map" wanted)
  | some c =>
    if isDigit c then failUnplaced (wrongType (describeNumber (← numberBody false)) wanted)
    else failPeeked .expectedValue
  | none => failPeeked .expectedValue

/-- Goes on with the next character, or stops where a value is missing. -/
def onValue (scan : Char → Scan α) : Scan α := do
  match ← peekPastBlanks with
  | none => failPeeked .eofValue
  | some c => placed (scan c)

def lift : Except String α → Scan α
  | .ok a => pure a
  | .error text => failUnplaced text

def map (f : α → β) (d : Decoder α) : Decoder β where
  ofJson v := (d.ofJson v).map f
  scan depth := do return f (← d.scan depth)

/-- Any JSON value. -/
def json : Decoder Json where
  ofJson v := .ok v
  scan depth := value depth

def bool : Decoder Bool where
  ofJson
    | .bool b => .ok b
    | v => .error (wrongType (describe v) "a boolean")
  scan _ := onValue fun c =>
    if c = 't' then do drop; word ['r', 'u', 'e']; pure true
    else if c = 'f' then do drop; word ['a', 'l', 's', 'e']; pure false
    else scanMismatch "a boolean"

def string (wanted : String) : Decoder String where
  ofJson
    | .string s => .ok s
    | v => .error (wrongType (describe v) wanted)
  scan _ := onValue fun c =>
    if c = '"' then do drop; stringBody else scanMismatch wanted

/-- The natural number of a JSON number, given the largest one that is allowed. -/
def naturalOf (limit : Option Nat) (wanted : String) : Number → Except String Nat
  | .integer (.ofNat n) =>
    if limit.all (n ≤ ·) then .ok n
    else .error ("invalid value: " ++ describeNumber (.integer n) ++ ", expected " ++ wanted)
  | .integer n => .error ("invalid value: " ++ describeNumber (.integer n) ++ ", expected " ++ wanted)
  | .double x => .error (wrongType (describeNumber (.double x)) wanted)

def natural (limit : Option Nat) (wanted : String) : Decoder Nat where
  ofJson
    | .number n => naturalOf limit wanted n
    | v => .error (wrongType (describe v) wanted)
  scan _ := onValue fun c =>
    if c = '-' then do drop; lift (naturalOf limit wanted (← numberBody true))
    else if isDigit c then do lift (naturalOf limit wanted (← numberBody false))
    else scanMismatch wanted

/-- A number that counts or points at something. -/
def index : Decoder Nat := natural none "usize"

def byte : Decoder UInt8 := (natural (some 255) "u8").map UInt8.ofNat

/-- `null` for nothing. -/
def nullable (d : Decoder α) : Decoder (Option α) where
  ofJson
    | .null => .ok none
    | v => (d.ofJson v).map some
  scan depth := do
    match ← peekPastBlanks with
    | some 'n' => drop; word ['u', 'l', 'l']; pure none
    | _ => return some (← d.scan depth)

/-- Runs a scan between brackets. A mismatch inside is placed behind the closing bracket, if that
is what comes next. -/
def enclosed (body : Scan α) (close : Scan Unit) : Scan α := fun cs =>
  match body cs with
  | .ok (a, rest) =>
    match close rest with
    | .ok (_, rest) => .ok (a, rest)
    | .error stop => .error stop
  | .error stop =>
    match close stop.rest with
    | .ok (_, rest) => .error { stop with rest := rest }
    | .error stop' => .error { stop with rest := stop'.rest }

def endList : Scan Unit := do
  match ← peekPastBlanks with
  | none => failPeeked .eofList
  | some ']' => drop
  | some ',' =>
    drop
    match ← peekPastBlanks with
    | some ']' => failPeeked .trailingComma
    | _ => failPeeked .trailingCharacters
  | some _ => failPeeked .trailingCharacters

def endObject : Scan Unit := do
  match ← peekPastBlanks with
  | none => failPeeked .eofObject
  | some '\x7d' => drop
  | some ',' => failPeeked .trailingComma
  | some _ => failPeeked .trailingCharacters

/-- Runs a scan one level deeper. -/
def nested (depth : Nat) (scan : Nat → Scan α) : Scan α :=
  match depth with
  | 0 => failPeeked .recursionLimit
  | d + 1 => do drop; scan d

def listLoop (item : Scan α) : Nat → Bool → List α → Scan (List α)
  | 0, _, _ => fail .eofList
  | fuel + 1, first, taken => do
    if ← anotherElement first then listLoop item fuel false ((← item) :: taken)
    else pure taken.reverse

def list (d : Decoder α) : Decoder (List α) where
  ofJson
    | .array items => items.mapM d.ofJson
    | v => .error (wrongType (describe v) "a sequence")
  scan depth := onValue fun c =>
    if c = '[' then nested depth fun depth =>
      enclosed (fun cs => listLoop (d.scan depth) (cs.length + 1) true [] cs) endList
    else scanMismatch "a sequence"

/-- A member of a record in the making `σ`: decoding it gives the change to make. -/
structure Field (σ : Type) where
  name : String
  isSet : σ → Bool
  decoder : Decoder (σ → σ)
  /-- Whether the list form may end before this member. -/
  mayBeAbsent : Bool

/-- What a record is made from: the members in order, the state before any was read, and how the
state becomes the record unless a member is missing. -/
structure RecordShape (σ α : Type) where
  /-- What a message calls the record. -/
  wanted : String
  start : σ
  fields : List (Field σ)
  finish : σ → Except String α
  /-- What a message says was wanted when a list has more elements than members. -/
  surplus : Nat → String

namespace RecordShape

variable (r : RecordShape σ α)

def wantedCount : String := r.wanted ++ " with " ++ elementCount r.fields.length

def ofMembers : List (String × Json) → σ → Except String σ
  | [], s => .ok s
  | (k, v) :: rest, s =>
    match r.fields.find? (·.name = k) with
    | none => ofMembers rest s
    | some f =>
      match f.decoder.ofJson v with
      | .error text => .error text
      | .ok change => ofMembers rest (change s)

def ofItems (count : Nat) : List (Field σ) → List Json → σ → Except String σ
  | [], [], s => .ok s
  | [], rest, _ => .error (wrongLength (count + rest.length) (r.surplus count))
  | f :: fs, [], s =>
    if f.mayBeAbsent then ofItems count fs [] s else .error (wrongLength count r.wantedCount)
  | f :: fs, v :: rest, s =>
    match f.decoder.ofJson v with
    | .error text => .error text
    | .ok change => ofItems (count + 1) fs rest (change s)

def scanMembers (depth : Nat) : Nat → Bool → σ → Scan σ
  | 0, _, _ => fail .eofObject
  | fuel + 1, first, s => do
    if ← anotherMember first then
      let k ← key
      match r.fields.find? (·.name = k) with
      | none =>
        colon
        skipValue
        scanMembers depth fuel false s
      | some f =>
        if f.isSet s then failUnplaced (duplicateField k)
        else
          colon
          let change ← f.decoder.scan depth
          scanMembers depth fuel false (change s)
    else pure s

def scanItems (depth count : Nat) : List (Field σ) → σ → Scan σ
  | [], s => pure s
  | f :: fs, s => do
    if ← anotherElement (count = 0) then
      let change ← f.decoder.scan depth
      scanItems depth (count + 1) fs (change s)
    else if f.mayBeAbsent then scanItems depth count fs s
    else failUnplaced (wrongLength count r.wantedCount)

def decoder : Decoder α where
  ofJson
    | .object members => (r.ofMembers members r.start).bind r.finish
    | .array items => (r.ofItems 0 r.fields items r.start).bind r.finish
    | v => .error (wrongType (describe v) r.wanted)
  scan depth := onValue fun c =>
    if c = '[' then nested depth fun depth =>
      enclosed (do lift (r.finish (← r.scanItems depth 0 r.fields r.start))) endList
    else if c = '\x7b' then nested depth fun depth =>
      enclosed (fun cs => (do
        lift (r.finish (← r.scanMembers depth (cs.length + 1) true r.start)) : Scan α) cs) endObject
    else scanMismatch r.wanted

end RecordShape

/-- One of several named alternatives. -/
def choice (options : List (String × Decoder α)) : Decoder α where
  ofJson
    | .object [(k, v)] =>
      match Entries.get? options k with
      | some d => d.ofJson v
      | none => .error (unknownVariant k (options.map (·.1)))
    | .object _ => .error "invalid value: map, expected map with a single key"
    | .string k =>
      if (Entries.get? options k).isSome then
        .error (wrongType "unit variant" "newtype variant")
      else .error (unknownVariant k (options.map (·.1)))
    | v => .error (wrongType (describe v) "string or map")
  scan depth := do
    let named : Scan (Decoder α) := onValue fun c =>
      if c = '"' then do
        let k ← key
        match Entries.get? options k with
        | some d => pure d
        | none => failUnplaced (unknownVariant k (options.map (·.1)))
      else scanMismatch "variant identifier"
    match ← peekPastBlanks with
    | none => failPeeked .eofValue
    | some '\x7b' => nested depth fun depth => do
      let d ← named
      colon
      let a ← d.scan depth
      match ← peekPastBlanks with
      | some '\x7d' => drop; pure a
      | some _ => fail .expectedValue
      | none => fail .eofObject
    | some '"' =>
      let _ ← named
      failUnplaced (wrongType "unit variant" "newtype variant")
    | some _ => failPeeked .expectedValue

end Decoder

end JsonTypes
