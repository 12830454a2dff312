import JsonTypes.Samples.Shape
import JsonTypes.Schema.Error
import JsonTypes.Session.Source

/-!
# What can go wrong in a session
-/

namespace JsonTypes

inductive SessionError where
  | sampleParse (name : String) (description : Option String) (message : String)
  | missingSchema (name : String)
  | noStore
  | multipleSchemas
  | emptyName (kind : SourceKind)
  | kindMismatch (expected found : SourceKind)
  | duplicate (kind : SourceKind)
  | unknownKind (name : String)
  | schema (e : SchemaError)
  | inference (name : String) (e : InferenceError)
  | io
  /-- A description for a top level that has no samples. -/
  | descriptionAlone (name : String)
deriving DecidableEq, Repr

namespace SessionError

def message : SessionError → String
  | sampleParse name description message =>
    "Cannot parse sample for '" ++ name ++ "' " ++ description.getD "(no description)" ++ ": " ++
      message
  | missingSchema name =>
    "Schema source '" ++ name ++ "' has neither schema text nor URIs"
  | noStore => "Schema processing requires a schema store, but none is configured"
  | multipleSchemas => "More than one input provides a schema string"
  | emptyName kind => "A " ++ kind.name ++ " source must have a non-empty name"
  | kindMismatch expected found =>
    "Input of kind '" ++ expected.name ++ "' cannot accept a '" ++ found.name ++ "' source"
  | duplicate kind => "An input of kind '" ++ kind.name ++ "' is already registered"
  | unknownKind name => "Unknown input kind: " ++ name
  | schema e => e.message
  | inference name e => "Inference failed for '" ++ name ++ "': " ++ e.message
  | io => "IO error"
  | descriptionAlone name =>
    "Internal error: cannot set description for top level '" ++ name ++ "' without samples"

end SessionError

/-- The kind of source that a name means. -/
def SourceKind.parse (name : String) : Except SessionError SourceKind :=
  if name = "samples" ∨ name = "json" then .ok samples
  else if name = "schema" then .ok schema
  else .error (.unknownKind name)

end JsonTypes
