import JsonTypes.Json.Parser
import JsonTypes.Schema.Address
import JsonTypes.Schema.Error
import JsonTypes.Yaml.Document

/-!
# Schema documents

The text of a schema is JSON, or else YAML. At its root it must be an object or a boolean, and the
keywords that references rely on must have the right kind of value. Text that is neither is
reported as JSON.
-/

namespace JsonTypes.Schema

/-- What is wrong with the keywords at the root of a schema, if anything. -/
def keywordProblem? (schema : Json) : Option String :=
  let isTypes : Json → Bool
    | .string _ => true
    | .array types => types.all (·.string?.isSome)
    | _ => false
  let notObject (keyword : String) : Bool :=
    match schema.member? keyword with
    | some v => v.object?.isNone
    | none => false
  if (schema.member? "type").any (!isTypes ·) then
    some "'type' must be a string or an array of strings"
  else
    match ["properties", "definitions", "$defs"].find? notObject with
    | some keyword => some ("'" ++ keyword ++ "' must be an object")
    | none =>
      if (schema.member? "$ref").any (·.string?.isNone) then some "'$ref' must be a string"
      else none

def problem? : Json → Option String
  | .bool _ => none
  | .object members => keywordProblem? (.object members)
  | v => some ("expected an object or boolean at the root, found " ++ v.kindName)

def validate (address : DocumentId) (document : Json) : Except SchemaError Unit :=
  match problem? document with
  | none => .ok ()
  | some reason => .error (.invalidDocument address.text reason)

/-- Reads a text as JSON or as YAML. -/
def read (text : String) : Except String Json :=
  match Json.parse text with
  | .ok document => .ok document
  | .error reason =>
    match Yaml.parse? text with
    | some document => .ok document
    | none => .error reason

/-- The document that the text at an address holds. -/
def parse (address : DocumentId) (text : String) : Except SchemaError Json := do
  let document ← (read text).mapError (.invalidDocument address.text)
  validate address document
  return document

end JsonTypes.Schema
