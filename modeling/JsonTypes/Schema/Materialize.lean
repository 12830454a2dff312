import JsonTypes.Graph.Basic
import JsonTypes.Schema.Plan
import JsonTypes.Schema.Producer
import JsonTypes.Schema.Resolver

/-!
# Types from schemas

Every location of a schema becomes one type. Its slot is reserved before the plan for its node is
carried out, so a schema that leads back to itself finds the slot there. A schema with a `$ref` is
an alias of what the reference leads to.

A run takes a number of steps that bounds how deep conversions nest and how long a chain of
aliases may be. A run that needs more ends with `SchemaError.outOfSteps`.
-/

namespace JsonTypes.Materialize

/-- Follows references to the first location without one. The list holds the locations passed. -/
def followAliases : Nat → List Location → Location → Resolve Location
  | 0, _, _ => throw .outOfSteps
  | steps + 1, passed, l => do
    let schema ← Resolver.schemaAt l
    match reference? schema with
    | none => return l
    | some reference =>
      if l ∈ passed then throw (.circularReference l.render)
      else followAliases steps (l :: passed) (← Resolver.resolve (l.document.resolve reference))

/-- The schema that a location leads to, and where it stands. -/
def schemaBehind (steps : Nat) (l : Location) : Resolve (Location × Json) := do
  let l ← followAliases steps [] l
  return (l, ← Resolver.schemaAt l)

structure State (σ : Type) where
  resolver : Resolver
  sink : σ
  /-- The locations that have a type already. -/
  converted : Entries Location TypeRef

/-- An action on resolver and sink that may fail; both keep what was done before. -/
abbrev Convert (σ : Type) := ExceptT SchemaError (StateM (State σ))

section Runs

variable {σ : Type}

def resolving {α : Type} (action : Resolve α) : Convert σ α := fun s =>
  let (a, resolver) := action s.resolver
  (a, { s with resolver := resolver })

def building {α : Type} (action : StateM σ α) : Convert σ α := fun s =>
  let (a, sink) := action s.sink
  (.ok a, { s with sink := sink })

variable [Sink σ]

/-- Carries out a plan, given how locations are converted and how many steps aliases may take. -/
def Plan.run {α : Type} (convert : Location → Convert σ TypeRef) (steps : Nat) :
    Plan α → Convert σ α
  | .done a => pure a
  | .fail e => throw e
  | .typeAt l next => do (next (← convert l)).run convert steps
  | .schemaBehind l next => do
    (next (← resolving (Materialize.schemaBehind steps l))).run convert steps
  | .share n next => do (next (← building (Sink.intern n))).run convert steps

def produceAll (producers : List AttributeProducer) (slot : TypeRef)
    (schema : List (String × Json)) (at_ : Location) : StateM σ Unit :=
  match producers with
  | [] => pure ()
  | producer :: rest => do
    match producer schema at_ with
    | some attributes => Sink.addAttributes slot attributes
    | none => pure ()
    produceAll rest slot schema at_

/-- Reserves the slot of a location. -/
def openSlot (l : Location) : Convert σ TypeRef := fun s =>
  let (slot, sink) := (Sink.reserve : StateM σ TypeRef) s.sink
  (.ok slot, { s with sink := sink, converted := s.converted.put l slot })

/-- Fills the slot of a location, and says about its type what the schema says. -/
def closeSlot (producers : List AttributeProducer) (slot : TypeRef) (schema : Json)
    (at_ : Location) (n : Node) : StateM σ Unit := do
  Sink.fill slot n
  match schema with
  | .object members => produceAll producers slot members at_
  | _ => pure ()

/-- Makes the type of a location that has none and is no alias. -/
def convertNew (producers : List AttributeProducer) (convert : Location → Convert σ TypeRef)
    (steps : Nat) (l : Location) : Convert σ TypeRef := do
  let slot ← openSlot l
  let schema ← resolving (Resolver.schemaAt l)
  let n ← (planFor schema l).run convert steps
  building (closeSlot producers slot schema l n)
  return slot

/-- The type of a location behind its aliases. -/
def convert (producers : List AttributeProducer) : Nat → Location → Convert σ TypeRef
  | 0, _ => throw .outOfSteps
  | steps + 1, l => do
    let l ← resolving (followAliases (steps + 1) [] l)
    match (← get).converted.get? l with
    | some type => return type
    | none => convertNew producers (convert producers steps) (steps + 1) l

def convertTopLevels (producers : List AttributeProducer) (steps : Nat) :
    List (String × Location) → Convert σ Unit
  | [] => pure ()
  | (name, l) :: rest => do
    let type ← convert producers steps l
    building (Sink.addTopLevel name type)
    convertTopLevels producers steps rest

/-- The number of steps that a run is given where nothing else is said. -/
def defaultSteps : Nat := 1000000

/-- Adds the top levels with their types to a sink, in turn. -/
def runInto (steps : Nat) (producers : List AttributeProducer) (topLevels : List (String × Location))
    (resolver : Resolver) (sink : σ) : Except SchemaError Unit × Resolver × σ :=
  let (outcome, s) := convertTopLevels producers steps topLevels ⟨resolver, sink, []⟩
  (outcome, s.resolver, s.sink)

end Runs

/-- Adds the top levels with their types to a graph. -/
def run (steps : Nat) (producers : List AttributeProducer) (topLevels : List (String × Location))
    (resolver : Resolver) (graph : Graph) : Except SchemaError Unit × Resolver × Graph :=
  runInto steps producers topLevels resolver graph

end JsonTypes.Materialize
