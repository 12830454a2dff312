import JsonTypes.Graph.Attributes
import JsonTypes.Schema.Location

/-!
# Attributes from schemas

A producer reads annotations of a schema and gives attributes for its type, or nothing.
-/

namespace JsonTypes

abbrev AttributeProducer := List (String × Json) → Location → Option Attributes

namespace AttributeProducer

/-- The keyword `description`. -/
def description : AttributeProducer := fun schema _ =>
  ((Entries.get? schema "description").bind Json.string?).map Attributes.ofDescription

/-- The keyword that gives properties the names of their accessors. -/
def accessorsKeyword : String := "x-accessors"

def accessors : AttributeProducer := fun schema _ =>
  match Entries.get? schema accessorsKeyword with
  | some (.object members) =>
    let names := members.filterMap fun e => e.2.string?.map fun name => (e.1, name)
    if names.isEmpty then none
    else some { Attributes.empty with accessorNames := .ofList names }
  | _ => none

/-- Copies the values of some keywords, and, if `locations` is set, where the schema stands. -/
def copying (keywords : List String) (locations : Bool) : AttributeProducer := fun schema location =>
  let found := keywords.filterMap fun k => (Entries.get? schema k).map fun v => (k, v)
  let extra := if locations then found ++ [("location", .string location.render)] else found
  if extra.isEmpty then none else some { Attributes.empty with extra := .ofList extra }

def builtIn : List AttributeProducer := [description, accessors]

end AttributeProducer

end JsonTypes
