import JsonTypes.FileTree
import JsonTypes.Session.Error

/-!
# Sets of samples

The samples for each top level, in the order in which the names came. A source is added as a whole
or not at all: all its samples are read before any is recorded.

Each set becomes a top level. One with a description has a node of its own, so the description
stays with it.
-/

namespace JsonTypes

structure SampleSet where
  samples : List Json
  description : Option String
deriving DecidableEq

/-- The bytes of the file at a path, where it can be read. -/
abbrev FileReader := String → Option (List UInt8)

/-- Reads the files of a tree. A path that does not start at the root leads nowhere. -/
def FileTree.reader (t : FileTree) : FileReader := fun path =>
  if path.toList.head? = some '/' then (t.readBytes (.ofText path)).toOption else none

structure SampleSets where
  sets : Entries String SampleSet
deriving DecidableEq

namespace SampleSets

def empty : SampleSets := ⟨[]⟩

def set? (s : SampleSets) (name : String) : Option SampleSet := s.sets.get? name

/-- The JSON of a sample. -/
def read (files : FileReader) (source : SampleSource) (sample : Sample) :
    Except SessionError Json :=
  let parsed := match sample with
    | .text text => some (Json.parse text)
    | .bytes bytes => some (Json.parseBytes bytes)
    | .file path => (files path).map Json.parseBytes
  match parsed with
  | some outcome => outcome.mapError (.sampleParse source.name source.description)
  | none => .error .io

/-- Adds samples at the end of the set of a name. -/
def append (s : SampleSets) (name : String) (samples : List Json) : SampleSets :=
  if samples.isEmpty then s
  else
    let before := (s.set? name).getD ⟨[], none⟩
    ⟨s.sets.put name { before with samples := before.samples ++ samples }⟩

/-- Sets the description of a set that is there. -/
def describe (s : SampleSets) (name description : String) :
    Except SessionError Unit × SampleSets :=
  match s.set? name with
  | none => (.error (.descriptionAlone name), s)
  | some set => (.ok (), ⟨s.sets.put name { set with description := some description }⟩)

/-- Adds a source. What is left beside a failure shows how far it got. -/
def add (files : FileReader) (source : SampleSource) (s : SampleSets) :
    Except SessionError Unit × SampleSets :=
  if source.name.isEmpty then (.error (.emptyName .samples), s)
  else
    match source.samples.mapM (read files source) with
    | .error e => (.error e, s)
    | .ok samples =>
      let s := s.append source.name samples
      match source.description with
      | none => (.ok (), s)
      | some description => s.describe source.name description

/-! ## Types -/

section Types

variable {σ : Type} [Sink σ]

/-- Adds the top level of a set. -/
def addType (c : InferenceConfig) (name : String) (set : SampleSet) :
    TryBuild σ SessionError Unit := do
  let infer := if set.description.isSome then inferDistinctTopLevel else inferTopLevel
  match ← (infer c set.samples : TryBuild σ InferenceError TypeRef).run with
  | .error e => throw (.inference name e)
  | .ok type =>
    (Sink.addTopLevel name type : StateM σ Unit)
    match set.description with
    | some description => (Sink.addAttributes type (.ofDescription description) : StateM σ Unit)
    | none => pure ()

def addTypesOf (c : InferenceConfig) : Entries String SampleSet → TryBuild σ SessionError Unit
  | [] => pure ()
  | (name, set) :: rest => do
    addType c name set
    addTypesOf c rest

/-- Adds a top level for each set, up to the first that fails. -/
def addTypes (c : InferenceConfig) (s : SampleSets) : TryBuild σ SessionError Unit :=
  addTypesOf c s.sets

end Types

end SampleSets

end JsonTypes
