import JsonTypes.Graph.Attributes

/-!
# Type graphs

A graph is an arena of nodes that only grows, with names for some of its types and attributes on
some. A node comes in shared (`intern`: the node of an equal interned one, if there is one), on
its own (`addFresh`), or as a slot that is filled later (`reserve`, `fill`), so that a type can
point back at itself.

What makes types does not ask for a graph but for a sink, anything that takes these calls.
-/

namespace JsonTypes

/-- A destination for types. -/
class Sink (σ : Type) where
  /-- The type of a node, the same for equal nodes. -/
  intern : Node → StateM σ TypeRef
  /-- A type for a node that is shared with no equal node. -/
  addFresh : Node → StateM σ TypeRef
  /-- A type whose node is not known yet. -/
  reserve : StateM σ TypeRef
  fill : TypeRef → Node → StateM σ Unit
  addTopLevel : String → TypeRef → StateM σ Unit
  addAttributes : TypeRef → Attributes → StateM σ Unit

def Sink.internAll {σ : Type} [Sink σ] : List Node → StateM σ (List TypeRef)
  | [] => pure []
  | n :: rest => do
    let ref ← intern n
    return ref :: (← internAll rest)

structure Graph where
  nodes : Array Node
  /-- The interned nodes with their types. Fresh nodes and slots are not among them. -/
  interned : Entries Node TypeRef
  topLevels : Entries String TypeRef
  attributes : SortedMap TypeRef Attributes
deriving DecidableEq

/-- An action that may change the graph. -/
abbrev Build := StateM Graph

namespace Graph

def empty : Graph := ⟨#[], [], [], .empty⟩

def size (g : Graph) : Nat := g.nodes.size

def isEmpty (g : Graph) : Bool := g.nodes.isEmpty

def node? (g : Graph) (ref : TypeRef) : Option Node := g.nodes[ref]?

def topLevel? (g : Graph) (name : String) : Option TypeRef := g.topLevels.get? name

def attributesOf? (g : Graph) (ref : TypeRef) : Option Attributes := g.attributes.get? ref

def property? (g : Graph) (ref : TypeRef) (name : String) : Option Property :=
  match g.node? ref with
  | some (.object properties) => properties.get? name
  | _ => none

/-- The kinds of the members of a union, or the kind of the node. -/
def memberKinds (g : Graph) (ref : TypeRef) : List String :=
  match g.node? ref with
  | some (.union members) => members.toList.filterMap fun m => (g.node? m).map Node.kind
  | some n => [n.kind]
  | none => []

/-! ## Building -/

def addFresh (n : Node) : Build TypeRef := fun g =>
  (g.nodes.size, { g with nodes := g.nodes.push n })

def intern (n : Node) : Build TypeRef := fun g =>
  match g.interned.get? n with
  | some ref => (ref, g)
  | none =>
    (g.nodes.size, { g with
      nodes := g.nodes.push n, interned := g.interned ++ [(n, g.nodes.size)] })

/-- A slot reads as any value until it is filled. -/
def reserve : Build TypeRef := addFresh .any

def fill (slot : TypeRef) (n : Node) : Build Unit := fun g =>
  ((), { g with nodes := g.nodes.setIfInBounds slot n })

def addTopLevel (name : String) (ref : TypeRef) : Build Unit := fun g =>
  ((), { g with topLevels := g.topLevels.put name ref })

/-- Merges attributes into those that the type has. An empty set leaves no trace. -/
def addAttributes (ref : TypeRef) (a : Attributes) : Build Unit := fun g =>
  if a.isEmpty then ((), g)
  else
    let before := (g.attributesOf? ref).getD .empty
    ((), { g with attributes := g.attributes.insert ref (before.merge a) })

instance : Sink Graph where
  intern := intern
  addFresh := addFresh
  reserve := reserve
  fill := fill
  addTopLevel := addTopLevel
  addAttributes := addAttributes

/-! ## JSON form -/

/-- The attributes of the types that have any, by index. -/
def listedAttributes (g : Graph) : List (TypeRef × Attributes) :=
  g.attributes.toList.filter fun e => e.1 < g.nodes.size

def toJson (g : Graph) : Json :=
  .object
    [("nodes", .array (g.nodes.toList.map Node.toJson)),
     ("topLevels", .array (g.topLevels.map fun e => .array [.string e.1, Node.refJson e.2])),
     ("attributes",
       .array (g.listedAttributes.map fun e => .array [Node.refJson e.1, e.2.toJson]))]

end Graph

end JsonTypes
