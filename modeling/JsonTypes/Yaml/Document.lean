import JsonTypes.Yaml.Layout
import JsonTypes.Yaml.Node
import JsonTypes.Yaml.Scalar.Value

/-!
# YAML documents as JSON

A text holds one document, or none, which is null. The keys of a mapping are texts: a scalar is
its text, whatever its tag, and a collection is no key. An alias is replaced with what its anchor
marks; a document may have up to a hundred aliases followed for each step of reading it.
-/

namespace JsonTypes.Yaml

/-- What is needed to follow aliases. -/
structure Anchors where
  targets : Entries Nat Node
  /-- How many aliases may be followed. -/
  limit : Nat

/-- Reading JSON off a node, counting the aliases followed. -/
abbrev Render := StateT Nat Option

namespace Node

def anchors (root : Node) : Anchors := ⟨Entries.ofList root.anchored, 100 * root.size⟩

/-- What an alias stands for. -/
def behindAlias (anchors : Anchors) : Node → Render Node
  | .aliasOf n => do
    modify (· + 1)
    guard ((← get) ≤ anchors.limit)
    match anchors.targets.get? n with
    | some v => pure v
    | none => failure
  | v => pure v

def key (anchors : Anchors) (v : Node) : Render String := do
  match ← behindAlias anchors v with
  | scalar _ text _ => pure text
  | _ => failure

section Collections

variable (anchors : Anchors) (item : Node → Render Json)

def jsonItems : List Node → Render (List Json)
  | [] => pure []
  | v :: rest => do
    let first ← item v
    return first :: (← jsonItems rest)

def jsonMembers : List (Node × Node) → Entries String Json → Render (Entries String Json)
  | [], members => pure members
  | (k, v) :: rest, members => do
    let k ← key anchors k
    jsonMembers rest (members.put k (← item v))

end Collections

/-- A collection with a tag of the document's own that is text is refused. -/
def allowsCollection (props : Properties) : Bool :=
  !props.tag.any fun tag => isLocal tag && (Text.utf8Text? tag).isSome

/-- The JSON of a node, given that of the nodes in it; without that it must be a scalar. -/
def jsonOver (anchors : Anchors) (inner : Option (Node → Render Json)) (v : Node) :
    Render Json := do
  match ← behindAlias anchors v, inner with
  | scalar props text plain, _ =>
    match scalarValue? props.tag text plain with
    | some json => pure json
    | none => failure
  | sequence props items, some item =>
    guard (allowsCollection props)
    return .array (← jsonItems item items)
  | mapping props entries, some item =>
    guard (allowsCollection props)
    return .object (← jsonMembers anchors item entries [])
  | _, _ => failure

/-- The JSON of a node in which collections nest so many levels deep at most, aliases replaced. -/
def json (anchors : Anchors) : Nat → Node → Render Json
  | 0 => jsonOver anchors none
  | depth + 1 => jsonOver anchors (some (json anchors depth))

end Node

/-- Reads a text as YAML. -/
def parse? (text : String) : Option Json := do
  match ← Node.ofTokens? (← tokens? text.toList) with
  | none => return .null
  | some root =>
    let (v, _) ← (root.json root.anchors Node.maxNesting).run 0
    return v

end JsonTypes.Yaml
