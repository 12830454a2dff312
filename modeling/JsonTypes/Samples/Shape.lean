import JsonTypes.Graph.Basic
import JsonTypes.Samples.Config
import JsonTypes.Temporal

/-!
# Shapes of samples

A shape gathers what was seen at one position of the samples: which kinds of values, which
strings, the shape of the elements and the shape of every property. Values are folded in one by
one (`Shape.add`); a value that is nested too deeply stops the folding and leaves behind what was
folded in before it.

A shape is emitted as a type: nothing seen is any value, one kind is that kind's node, and several
are a union. A property is optional when some object lacked it.
-/

namespace JsonTypes

inductive InferenceError where
  | maxDepthExceeded (depth max : Nat)
  | noSamples
deriving DecidableEq, Repr

def InferenceError.message : InferenceError → String
  | maxDepthExceeded depth max =>
    "Maximum nesting depth exceeded: " ++ toString depth ++ " > " ++ toString max
  | noSamples => "No samples provided for inference"

/-- What the formats of the strings so far have in common. -/
inductive FormatState where
  | unset
  | consistent (format : StringFormat)
  | mixed
deriving DecidableEq, Repr

def FormatState.add : FormatState → Option StringFormat → FormatState
  | unset, some f => consistent f
  | consistent f, some f' => if f = f' then consistent f else mixed
  | _, _ => mixed

structure StringShape where
  occurrences : Nat
  /-- The distinct strings, until there are too many of them. -/
  cases : List String
  tooManyCases : Bool
  format : FormatState
deriving DecidableEq, Repr

namespace StringShape

/-- How many distinct strings are told apart at one position. -/
def maxCases : Nat := 512

def empty : StringShape := ⟨0, [], false, .unset⟩

def addCase (s : StringShape) (text : String) : StringShape :=
  if s.tooManyCases || s.cases.contains text then s
  else if s.cases.length < maxCases then { s with cases := s.cases ++ [text] }
  else { s with cases := [], tooManyCases := true }

def add (c : InferenceConfig) (s : StringShape) (text : String) : StringShape :=
  let s := s.addCase text
  { s with
    occurrences := s.occurrences + 1
    format := s.format.add (if c.inferDates then Temporal.detectFormat text else none) }

/-- Few distinct strings for the number of occurrences: fewer than its square root, where both are
taken as doubles. -/
@[irreducible]
def isEnumLike (s : StringShape) : Bool :=
  !s.tooManyCases && 0 < s.cases.length &&
    Double.ofNatRank s.cases.length < Double.sqrtRank (Double.ofNatRank s.occurrences)

def node (c : InferenceConfig) (s : StringShape) : Node :=
  match s.format with
  | .consistent f => .string (some f)
  | _ => if c.inferEnums && s.isEnumLike then .enum (.ofList s.cases) else .string none

end StringShape

/-- What was seen of the kinds that hold no other values. -/
structure ScalarShape where
  null : Bool
  boolean : Bool
  integer : Bool
  double : Bool
  strings : Option StringShape
deriving DecidableEq, Repr

namespace ScalarShape

def empty : ScalarShape := ⟨false, false, false, false, none⟩

def addNumber (s : ScalarShape) : Number → ScalarShape
  | .integer _ => { s with integer := true }
  | .double _ => { s with double := true }

def addString (c : InferenceConfig) (s : ScalarShape) (text : String) : ScalarShape :=
  { s with strings := some ((s.strings.getD .empty).add c text) }

/-- One node for each kind that was seen; a double takes in the integers. -/
def nodes (c : InferenceConfig) (s : ScalarShape) : List Node :=
  (if s.null then [.null] else []) ++
  (if s.boolean then [.bool] else []) ++
  (if s.double then [.double] else if s.integer then [.integer] else []) ++
  (match s.strings with
    | some strings => [strings.node c]
    | none => [])

end ScalarShape

structure Shape where
  occurrences : Nat
  scalars : ScalarShape
  /-- The shape of all elements, once there was an array. -/
  items : Option Shape
  /-- How many objects there were. -/
  records : Nat
  properties : List (String × Shape)

namespace Shape

def empty : Shape := ⟨0, .empty, none, 0, []⟩

mutual

/-- Folds in a value that stands so many levels deep. The shape is what it was up to a failure. -/
def addAt (c : InferenceConfig) : Json → Nat → Shape → Except InferenceError Unit × Shape
  | v, depth, s =>
    if c.maxDepth < depth then (.error (.maxDepthExceeded depth c.maxDepth), s)
    else
      let s := { s with occurrences := s.occurrences + 1 }
      match v with
      | .null => (.ok (), { s with scalars := { s.scalars with null := true } })
      | .bool _ => (.ok (), { s with scalars := { s.scalars with boolean := true } })
      | .number n => (.ok (), { s with scalars := s.scalars.addNumber n })
      | .string text => (.ok (), { s with scalars := s.scalars.addString c text })
      | .array items =>
        let (outcome, inner) := addItems c items (depth + 1) (s.items.getD empty)
        (outcome, { s with items := some inner })
      | .object members =>
        let (outcome, properties) := addMembers c members (depth + 1) s.properties
        (outcome, { s with records := s.records + 1, properties := properties })

def addItems (c : InferenceConfig) :
    List Json → Nat → Shape → Except InferenceError Unit × Shape
  | [], _, s => (.ok (), s)
  | v :: rest, depth, s =>
    match addAt c v depth s with
    | (.ok (), s) => addItems c rest depth s
    | (.error e, s) => (.error e, s)

def addMembers (c : InferenceConfig) : List (String × Json) → Nat → List (String × Shape) →
    Except InferenceError Unit × List (String × Shape)
  | [], _, ps => (.ok (), ps)
  | (k, v) :: rest, depth, ps =>
    match addAt c v depth ((Entries.get? ps k).getD empty) with
    | (.ok (), s) => addMembers c rest depth (Entries.put ps k s)
    | (.error e, s) => (.error e, Entries.put ps k s)

end

def add (c : InferenceConfig) (v : Json) (s : Shape) : Except InferenceError Unit × Shape :=
  addAt c v 0 s

/-- Folds in values in turn, up to the first failure. -/
def addAll (c : InferenceConfig) : List Json → Shape → Except InferenceError Shape
  | [], s => .ok s
  | v :: rest, s =>
    match add c v s with
    | (.ok (), s) => addAll c rest s
    | (.error e, _) => .error e

section Emit

variable {σ : Type} [Sink σ]

/-- The node for several nodes: a union of their interned types, unless there is just one. -/
def combine : List Node → StateM σ Node
  | [] => pure .any
  | [n] => pure n
  | nodes => do return .union (.ofList (← Sink.internAll nodes))

/-- Adds a node as a type; with `fresh` it is shared with no equal node. -/
def addNode (fresh : Bool) (n : Node) : StateM σ TypeRef :=
  if fresh then Sink.addFresh n else Sink.intern n

mutual

def emit (c : InferenceConfig) (fresh : Bool) : Shape → StateM σ TypeRef
  | ⟨_, scalars, items, records, properties⟩ => do
    let arrays ← emitItems c items
    let types ← emitProperties c records properties
    let objects := if records = 0 then [] else [Node.object (.ofList types)]
    addNode fresh (← combine (scalars.nodes c ++ arrays ++ objects))

def emitItems (c : InferenceConfig) : Option Shape → StateM σ (List Node)
  | none => pure []
  | some s => do return [.array (← emit c false s)]

def emitProperties (c : InferenceConfig) (records : Nat) :
    List (String × Shape) → StateM σ (List (String × Property))
  | [] => pure []
  | (k, s) :: rest => do
    let type ← emit c false s
    let more ← emitProperties c records rest
    return (k, ⟨type, s.occurrences < records⟩) :: more

end

end Emit

end Shape

/-! ## Top levels -/

/-- An action on a sink that may fail; the sink keeps what was done before. -/
abbrev TryBuild (σ ε : Type) := ExceptT ε (StateM σ)

section Infer

variable {σ : Type} [Sink σ]

/-- One type for all samples. -/
def infer (c : InferenceConfig) (fresh : Bool) (samples : List Json) :
    TryBuild σ InferenceError TypeRef :=
  if samples.isEmpty then throw .noSamples
  else
    match Shape.empty.addAll c samples with
    | .ok shape => (shape.emit c fresh : StateM σ TypeRef)
    | .error e => throw e

def inferTopLevel (c : InferenceConfig) (samples : List Json) :
    TryBuild σ InferenceError TypeRef :=
  infer c c.fixedTopLevels samples

/-- The type's node is shared with no other type, so what is attached to it stays with it. -/
def inferDistinctTopLevel (c : InferenceConfig) (samples : List Json) :
    TryBuild σ InferenceError TypeRef :=
  infer c true samples

end Infer

end JsonTypes
