import JsonTypes.Json.Decoder
import JsonTypes.Sorted

/-!
# Nodes of a type graph

A node says what values its type has, and points at other types by their index in the graph. The
cases of an enum, the properties of an object and the members of a union are sets, so nodes are
equal exactly when they describe the same thing.

A node has a JSON form, an object with the kind of the node and what belongs to that kind.
-/

namespace JsonTypes

/-- The index of a type in its graph. -/
abbrev TypeRef := Nat

inductive StringFormat where
  | date
  | time
  | dateTime
deriving DecidableEq, Repr

namespace StringFormat

def keyword : StringFormat → String
  | date => "date"
  | time => "time"
  | dateTime => "date-time"

def ofKeyword? (s : String) : Option StringFormat :=
  if s = "date" then some date
  else if s = "time" then some time
  else if s = "date-time" then some dateTime
  else none

theorem ofKeyword?_keyword (f : StringFormat) : ofKeyword? f.keyword = some f := by
  cases f <;> decide

end StringFormat

structure Property where
  type : TypeRef
  optional : Bool
deriving DecidableEq, Repr

inductive Node where
  | any
  | never
  | null
  | bool
  | integer
  | double
  | string (format : Option StringFormat)
  | enum (cases : SortedSet String)
  | array (items : TypeRef)
  | object (properties : SortedMap String Property)
  | map (values : TypeRef)
  | union (members : SortedSet TypeRef)
deriving DecidableEq

namespace Node

def kind : Node → String
  | any => "any"
  | never => "never"
  | null => "null"
  | bool => "bool"
  | integer => "integer"
  | double => "double"
  | string _ => "string"
  | enum _ => "enum"
  | array _ => "array"
  | object _ => "object"
  | map _ => "map"
  | union _ => "union"

/-- The types that a node points at. -/
def children : Node → List TypeRef
  | array items => [items]
  | object properties => properties.toList.map (·.2.type)
  | map values => [values]
  | union members => members.toList
  | _ => []

/-! ## JSON form -/

def formatJson : Option StringFormat → Json
  | none => .null
  | some f => .string f.keyword

def refJson (ref : TypeRef) : Json := .int ref

def propertyJson (p : Property) : Json :=
  .object [("ty", refJson p.type), ("optional", .bool p.optional)]

/-- What belongs to the node beside its kind. -/
def fieldsJson : Node → List (String × Json)
  | string format => [("format", formatJson format)]
  | enum cases => [("cases", .array (cases.toList.map .string))]
  | array items => [("items", refJson items)]
  | object properties =>
    [("properties", .object (properties.toList.map fun e => (e.1, propertyJson e.2)))]
  | map values => [("values", refJson values)]
  | union members => [("members", .array (members.toList.map refJson))]
  | _ => []

def toJson (n : Node) : Json := .object (("kind", .string n.kind) :: n.fieldsJson)

/-! ## Reading the JSON form -/

open Decoder

def elementsInSequence (n : Nat) : String := elementCount n ++ " in sequence"

def formatDecoder : Decoder StringFormat :=
  let names := ["date", "time", "date-time"]
  let named (k : String) : Except String StringFormat :=
    match StringFormat.ofKeyword? k with
    | some f => .ok f
    | none => .error (unknownVariant k names)
  let ofJson : Json → Except String StringFormat
    | .string k => named k
    | .object [(k, .null)] => named k
    | .object [(k, v)] => do
      let _ ← named k
      .error (wrongType (describe v) "unit")
    | .object _ => .error "invalid value: map, expected map with a single key"
    | v => .error (wrongType (describe v) "string or map")
  ⟨ofJson, fun depth => do lift (ofJson (← Json.value depth))⟩

/-- A record with one member. -/
def single {α : Type} (wanted name : String) (decoder : Decoder α) (absent : Option α) :
    RecordShape (Option α) α where
  wanted := wanted
  start := none
  fields := [⟨name, Option.isSome, decoder.map fun a _ => some a, false⟩]
  finish
    | some a => .ok a
    | none =>
      match absent with
      | some a => .ok a
      | none => .error (missingField name)
  surplus := elementsInSequence

def propertyShape : RecordShape (Option TypeRef × Option Bool) Property where
  wanted := "struct Property"
  start := (none, none)
  fields :=
    [⟨"ty", fun s => s.1.isSome, index.map fun r s => (some r, s.2), false⟩,
     ⟨"optional", fun s => s.2.isSome, Decoder.bool.map fun b s => (s.1, some b), false⟩]
  finish
    | (none, _) => .error (missingField "ty")
    | (_, none) => .error (missingField "optional")
    | (some type, some optional) => .ok ⟨type, optional⟩
  surplus := elementsInSequence

/-- The members of an object, each read by one decoder. -/
def membersOf {α : Type} (d : Decoder α) : List (String × Json) → Except String (List (String × α))
  | [] => .ok []
  | (k, v) :: rest => do
    let a ← d.ofJson v
    let more ← membersOf d rest
    .ok ((k, a) :: more)

def mapDecoder {α : Type} (d : Decoder α) : Decoder (SortedMap String α) :=
  let ofJson : Json → Except String (SortedMap String α)
    | .object members => (membersOf d members).map SortedMap.ofList
    | v => .error (wrongType (describe v) "a map")
  ⟨ofJson, fun depth => do lift (ofJson (← Json.value depth))⟩

def kinds : List String :=
  ["any", "never", "null", "bool", "integer", "double", "string", "enum", "array", "object", "map",
    "union"]

/-- A record without members, for the kinds that need nothing else. -/
def bare (node : Node) : Decoder Node :=
  (RecordShape.mk "unit variant" () [] (fun _ => .ok node) elementsInSequence).decoder

/-- The decoder for what belongs to a kind. -/
def decoderOfKind? : String → Option (Decoder Node)
  | "any" => some (bare any)
  | "never" => some (bare never)
  | "null" => some (bare null)
  | "bool" => some (bare bool)
  | "integer" => some (bare integer)
  | "double" => some (bare double)
  | "string" => some <|
    (single "struct variant TypeNode::String" "format" (nullable formatDecoder)
      (some none)).decoder.map string
  | "enum" => some <|
    (single "struct variant TypeNode::Enum" "cases" (Decoder.list (Decoder.string "a string"))
      none).decoder.map fun cases => enum (.ofList cases)
  | "array" => some <|
    (single "struct variant TypeNode::Array" "items" index none).decoder.map array
  | "object" => some <|
    (single "struct variant TypeNode::Object" "properties"
      (mapDecoder propertyShape.decoder) none).decoder.map object
  | "map" => some <|
    (single "struct variant TypeNode::Map" "values" index none).decoder.map map
  | "union" => some <|
    (single "struct variant TypeNode::Union" "members" (Decoder.list index)
      none).decoder.map fun members => union (.ofList members)
  | _ => none

def ofTagged (tag rest : Json) : Except String Node :=
  match tag with
  | .string k =>
    match decoderOfKind? k with
    | some d => d.ofJson rest
    | none => .error (unknownVariant k kinds)
  | v => .error (wrongType (describe v) "variant identifier")

def ofJson : Json → Except String Node
  | .object members =>
    match Entries.get? members "kind" with
    | none => .error (missingField "kind")
    | some tag => ofTagged tag (.object (members.filter (·.1 ≠ "kind")))
  | .array [] => .error (missingField "kind")
  | .array (tag :: rest) => ofTagged tag (.array rest)
  | v => .error (wrongType (describe v) "internally tagged enum TypeNode")

end Node

end JsonTypes
