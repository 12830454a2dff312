import JsonTypes.Graph.Node

/-!
# Attributes of types

What is said about a type without changing its values: descriptions, names for accessors, and
whatever else producers contribute. Merging keeps the descriptions there are, adds each new one
once in the order of its first occurrence, and lets the later set win under every key.
-/

namespace JsonTypes

structure Attributes where
  descriptions : List String
  accessorNames : SortedMap String String
  extra : SortedMap String Json
deriving DecidableEq

namespace Attributes

def empty : Attributes := ⟨[], .empty, .empty⟩

def ofDescription (text : String) : Attributes := { empty with descriptions := [text] }

def isEmpty (a : Attributes) : Bool :=
  a.descriptions.isEmpty && a.accessorNames.isEmpty && a.extra.isEmpty

/-- Adds a text at the end of a list that does not hold it yet. -/
def addNew (texts : List String) (text : String) : List String :=
  if text ∈ texts then texts else texts ++ [text]

def merge (a b : Attributes) : Attributes where
  descriptions := b.descriptions.foldl addNew a.descriptions
  accessorNames := a.accessorNames.union b.accessorNames
  extra := a.extra.union b.extra

/-! ## JSON form -/

def toJson (a : Attributes) : Json :=
  .object <|
    (if a.descriptions.isEmpty then []
      else [("descriptions", .array (a.descriptions.map .string))]) ++
    (if a.accessorNames.isEmpty then []
      else [("accessorNames", .object (a.accessorNames.toList.map fun e => (e.1, .string e.2)))]) ++
    (if a.extra.isEmpty then [] else [("extra", .object a.extra.toList)])

open Decoder

/-- Attributes in the making: what each member has given so far. -/
structure Draft where
  descriptions : Option (List String)
  accessorNames : Option (SortedMap String String)
  extra : Option (SortedMap String Json)

def shape : RecordShape Draft Attributes where
  wanted := "struct TypeAttributes"
  start := ⟨none, none, none⟩
  fields :=
    [⟨"descriptions", (·.descriptions.isSome),
        (Decoder.list (Decoder.string "a string")).map fun x d => { d with descriptions := some x },
        true⟩,
     ⟨"accessorNames", (·.accessorNames.isSome),
        (Node.mapDecoder (Decoder.string "a string")).map fun x d =>
          { d with accessorNames := some x },
        true⟩,
     ⟨"extra", (·.extra.isSome),
        (Node.mapDecoder Decoder.json).map fun x d => { d with extra := some x }, true⟩]
  finish d := .ok ⟨d.descriptions.getD [], d.accessorNames.getD .empty, d.extra.getD .empty⟩
  surplus _ := "fewer elements in array"

def decoder : Decoder Attributes := shape.decoder

end Attributes

end JsonTypes
