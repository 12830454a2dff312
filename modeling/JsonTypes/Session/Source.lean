import JsonTypes.Json.Decoder

/-!
# Sources

What a session is given: a source of samples for one top level, or a schema by its text, by the
addresses of its top levels, or by both. Sources have JSON forms, in which what is absent is left
out.
-/

namespace JsonTypes

inductive SourceKind where
  | samples
  | schema
deriving DecidableEq, Repr

def SourceKind.name : SourceKind → String
  | samples => "samples"
  | schema => "schema"

/-- One sample, written as JSON. -/
inductive Sample where
  | text (s : String)
  | bytes (bytes : List UInt8)
  /-- The sample that a file holds. -/
  | file (path : String)
deriving DecidableEq, Repr

structure SampleSource where
  name : String
  samples : List Sample
  description : Option String
deriving DecidableEq, Repr

structure SchemaSource where
  name : String
  uris : Option (List String)
  schema : Option String
  /-- Whether the schema describes final types already. -/
  isConverted : Option Bool
deriving DecidableEq, Repr

inductive Source where
  | samples (s : SampleSource)
  | schema (s : SchemaSource)
deriving DecidableEq, Repr

namespace Source

def kind : Source → SourceKind
  | samples _ => .samples
  | schema _ => .schema

def name : Source → String
  | samples s => s.name
  | schema s => s.name

end Source

/-! ## Building a source from its name -/

namespace SampleSource

def new (name : String) : SampleSource := ⟨name, [], none⟩

def withSample (s : SampleSource) (sample : Sample) : SampleSource :=
  { s with samples := s.samples ++ [sample] }

def withDescription (s : SampleSource) (text : String) : SampleSource :=
  { s with description := some text }

end SampleSource

namespace SchemaSource

def new (name : String) : SchemaSource := ⟨name, none, none, none⟩

def withUri (s : SchemaSource) (uri : String) : SchemaSource :=
  { s with uris := some (s.uris.getD [] ++ [uri]) }

def withSchema (s : SchemaSource) (text : String) : SchemaSource := { s with schema := some text }

def converted (s : SchemaSource) (b : Bool) : SchemaSource := { s with isConverted := some b }

end SchemaSource

/-! ## JSON forms -/

open Decoder

namespace Sample

def toJson : Sample → Json
  | text s => .object [("text", .string s)]
  | bytes bs => .object [("bytes", .array (bs.map fun b => .int b.toNat))]
  | file path => .object [("file", .string path)]

def decoder : Decoder Sample :=
  choice
    [("text", (Decoder.string "a string").map text),
     ("bytes", (Decoder.list byte).map bytes),
     ("file", (Decoder.string "path string").map file)]

end Sample

/-- A member that is there only with a value. -/
def optionalMember {α : Type} (name : String) (toJson : α → Json) (a : Option α) :
    List (String × Json) :=
  (a.map fun a => (name, toJson a)).toList

namespace SampleSource

def toJson (s : SampleSource) : Json :=
  .object <|
    [("name", .string s.name), ("samples", .array (s.samples.map Sample.toJson))] ++
    optionalMember "description" .string s.description

/-- A source in the making: what each member has given so far. -/
structure Draft where
  name : Option String
  samples : Option (List Sample)
  description : Option (Option String)

def finish (d : Draft) : Except String SampleSource :=
  match d.name, d.samples with
  | none, _ => .error (missingField "name")
  | some _, none => .error (missingField "samples")
  | some name, some samples => .ok ⟨name, samples, d.description.getD none⟩

def shape : RecordShape Draft SampleSource where
  wanted := "struct SampleSourceDescriptor"
  start := ⟨none, none, none⟩
  fields :=
    [⟨"name", (·.name.isSome),
        (Decoder.string "a string").map fun x d => { d with name := some x }, false⟩,
     ⟨"samples", (·.samples.isSome),
        (Decoder.list Sample.decoder).map fun x d => { d with samples := some x }, false⟩,
     ⟨"description", (·.description.isSome),
        (nullable (Decoder.string "a string")).map fun x d => { d with description := some x },
        true⟩]
  finish := finish
  surplus _ := "fewer elements in array"

def decoder : Decoder SampleSource := shape.decoder

end SampleSource

namespace SchemaSource

def toJson (s : SchemaSource) : Json :=
  .object <|
    [("name", .string s.name)] ++
    optionalMember "uris" (fun uris => .array (uris.map .string)) s.uris ++
    optionalMember "schema" .string s.schema ++
    optionalMember "isConverted" .bool s.isConverted

/-- A source in the making: what each member has given so far. -/
structure Draft where
  name : Option String
  uris : Option (Option (List String))
  schema : Option (Option String)
  isConverted : Option (Option Bool)

def finish (d : Draft) : Except String SchemaSource :=
  match d.name with
  | none => .error (missingField "name")
  | some name => .ok ⟨name, d.uris.getD none, d.schema.getD none, d.isConverted.getD none⟩

def shape : RecordShape Draft SchemaSource where
  wanted := "struct SchemaSourceDescriptor"
  start := ⟨none, none, none, none⟩
  fields :=
    [⟨"name", (·.name.isSome),
        (Decoder.string "a string").map fun x d => { d with name := some x }, false⟩,
     ⟨"uris", (·.uris.isSome),
        (nullable (Decoder.list (Decoder.string "a string"))).map fun x d =>
          { d with uris := some x },
        true⟩,
     ⟨"schema", (·.schema.isSome),
        (nullable (Decoder.string "a string")).map fun x d => { d with schema := some x }, true⟩,
     ⟨"isConverted", (·.isConverted.isSome),
        (nullable Decoder.bool).map fun x d => { d with isConverted := some x }, true⟩]
  finish := finish
  surplus _ := "fewer elements in array"

def decoder : Decoder SchemaSource := shape.decoder

end SchemaSource

end JsonTypes
