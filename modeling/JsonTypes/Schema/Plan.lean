import JsonTypes.Schema.Keywords

/-!
# Plans for nodes

How the node of a schema is worked out, apart from who answers. A plan asks for the types of
locations, for the schemas that parts lead to and for types that share a node, and goes on with
the answers, so what it asks and what it makes of the answers can be told without a run.

`enum` and `const` stand in for `type`; the options of `oneOf` and `anyOf` make a union, to which
`type` adds only where it is written; the parts of `allOf` contribute properties and required
names, and, if the schema has no `type`, theirs.
-/

namespace JsonTypes.Materialize

inductive Plan (α : Type) where
  | done (result : α)
  | fail (e : SchemaError)
  /-- Asks for the type of a location. -/
  | typeAt (l : Location) (next : TypeRef → Plan α)
  /-- Asks for the schema that a location leads to, and where it stands. -/
  | schemaBehind (l : Location) (next : Location × Json → Plan α)
  /-- Asks for a type with this node that may be shared. -/
  | share (n : Node) (next : TypeRef → Plan α)

namespace Plan

def bind {α β : Type} : Plan α → (α → Plan β) → Plan β
  | done a, f => f a
  | fail e, _ => fail e
  | typeAt l next, f => typeAt l fun t => (next t).bind f
  | schemaBehind l next, f => schemaBehind l fun s => (next s).bind f
  | share n next, f => share n fun t => (next t).bind f

instance : Monad Plan where
  pure := done
  bind := bind

def ofExcept {α : Type} : Except SchemaError α → Plan α
  | .ok a => done a
  | .error e => fail e

def askType (l : Location) : Plan TypeRef := typeAt l done

def askSchema (l : Location) : Plan (Location × Json) := schemaBehind l done

def askShared (n : Node) : Plan TypeRef := share n done

/-- Asks for each item in turn. -/
def askEach {α β : Type} (ask : α → Plan β) : List α → Plan (List β)
  | [] => pure []
  | a :: rest => do
    let b ← ask a
    return b :: (← askEach ask rest)

end Plan

open Plan

/-! ## Objects and arrays -/

def propertyPlan (required : List String) (p : String × Location) : Plan (String × Property) := do
  return (p.1, ⟨← askType p.2, !required.contains p.1⟩)

def objectPlan (sources : List Source) : Plan Node := do
  let rules := ObjectRules.ofSources sources
  if rules.isMap then
    match rules.additional with
    | some l => return .map (← askType l)
    | none => return .map (← askShared .any)
  else
    return .object (.ofList (← askEach (propertyPlan rules.required) rules.properties))

def arrayPlan (schema : List (String × Json)) (at_ : Location) : Plan Node := do
  let l := at_.push "items"
  match Entries.get? schema "items" with
  | some (.object _) | some (.bool _) => return .array (← askType l)
  | some (.array (item :: rest)) =>
    let members ← askEach askType (elementLocations l (item :: rest))
    return .array (← askShared (.union (.ofList members)))
  | _ => return .array (← askShared .any)

/-! ## Types -/

def planForType (type : String) (schema : List (String × Json)) (sources : List Source)
    (at_ : Location) : Plan Node :=
  match type with
  | "null" => return .null
  | "boolean" => return .bool
  | "integer" => return .integer
  | "number" => return .double
  | "string" => return .string (stringFormat? schema)
  | "array" => arrayPlan schema at_
  | "object" => objectPlan sources
  | other => .fail (.unsupported at_.render ("unknown type '" ++ other ++ "'"))

/-- The nodes beside the options of a schema, each once. -/
def ownPlan (schema : List (String × Json)) (sources : List Source) (at_ : Location) :
    Plan (List Node) :=
  match literalValues? schema with
  | some values => pure ((literalNodes values).foldl pushUnique [])
  | none => do
    let types ← ofExcept (typesOf schema sources at_)
    let nodes ← askEach (fun type => planForType type schema sources at_) types
    return nodes.foldl pushUnique []

/-! ## Schemas -/

/-- A schema with its location, if it is an object. -/
def source? : Location × Json → Option Source
  | (l, .object members) => some (l, members)
  | _ => none

/-- The node for options and further nodes: a union, unless it is one node and no option. -/
def combine (options : List TypeRef) (nodes : List Node) : Plan Node :=
  match options, nodes with
  | [], [] => return .any
  | [], [n] => return n
  | _, _ => do
    let members ← askEach askShared nodes
    return .union (.ofList (options ++ members))

/-- The locations of the parts of a schema. -/
def partLocations (schema : List (String × Json)) (at_ : Location) : List Location :=
  match arrayAt schema "allOf" with
  | some parts => elementLocations (at_.push "allOf") parts
  | none => []

def objectSchemaPlan (schema : List (String × Json)) (at_ : Location) : Plan Node := do
  let parts ← askEach askSchema (partLocations schema at_)
  let options ← askEach askType (optionLocations schema at_)
  let nodes ← ownPlan schema ((at_, schema) :: parts.filterMap source?) at_
  combine options nodes

/-- The plan for the node of a schema. -/
def planFor (schema : Json) (at_ : Location) : Plan Node :=
  match schema with
  | .bool true => return .any
  | .bool false => return .never
  | .object members => objectSchemaPlan members at_
  | v => .fail (.unsupported at_.render ("expected a schema, found " ++ v.kindName))

end JsonTypes.Materialize
