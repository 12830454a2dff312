import JsonTypes.Session.SampleSets
import JsonTypes.Session.SchemaSources

/-!
# Sessions

A session takes sources and has one processor for each kind of source, in the order in which the
kinds came. When all sources are added it is finished: what its sources refer to is resolved, and
what comes of it adds types to a sink.

Where a call fails it says so beside the state that it leaves. A processor that was made for a
source stays, even if the source is refused.
-/

namespace JsonTypes

inductive Processor where
  | samples (s : SampleSets)
  | schema (s : SchemaSources)

/-- What a session hands to the processors that it makes. -/
structure SessionOptions where
  store : Option SchemaStore
  producers : List AttributeProducer
  files : FileReader

namespace Processor

def ofKind (options : SessionOptions) : SourceKind → Processor
  | .samples => samples .empty
  | .schema => schema (.new options.store options.producers)

def kind : Processor → SourceKind
  | samples _ => .samples
  | schema _ => .schema

def needsInference : Processor → Bool
  | samples _ => true
  | schema s => s.needsInference

def needsSchemaProcessing : Processor → Bool
  | samples _ => false
  | schema _ => true

def singleText : Processor → Option String
  | samples _ => none
  | schema s => s.singleText

/-- The fetches from the backing store. -/
def log : Processor → List DocumentId
  | samples _ => []
  | schema s => s.log

def add (files : FileReader) : Source → Processor → Except SessionError Unit × Processor
  | .samples source, samples s =>
    let (outcome, s) := s.add files source
    (outcome, samples s)
  | .schema source, schema s =>
    let (outcome, s) := s.add source
    (outcome, schema s)
  | source, p => (.error (.kindMismatch p.kind source.kind), p)

def finish : Processor → Except SessionError Unit × Processor
  | samples s => (.ok (), samples s)
  | schema s =>
    let (outcome, s) := s.finish
    (outcome, schema s)

def addTypes {σ : Type} [Sink σ] (steps : Nat) (c : InferenceConfig) (sink : σ) :
    Processor → Except SessionError Unit × Processor × σ
  | samples s =>
    let (outcome, sink) := s.addTypes c sink
    (outcome, samples s, sink)
  | schema s =>
    let (outcome, s, sink) := s.addTypes steps sink
    (outcome, schema s, sink)

/-! ## Several processors -/

/-- The one text of all schemas that processors carry. -/
def singleTextOfAll (ps : List Processor) : Except SessionError (Option String) :=
  match ps.filterMap singleText with
  | [] => .ok none
  | text :: rest =>
    if rest.all (· = text) then .ok (some text) else .error .multipleSchemas

/-- Finishes processors in turn, up to the first that fails. -/
def finishAll : List Processor → Except SessionError Unit × List Processor
  | [] => (.ok (), [])
  | p :: rest =>
    match p.finish with
    | (.ok (), p) =>
      let (outcome, rest) := finishAll rest
      (outcome, p :: rest)
    | (.error e, p) => (.error e, p :: rest)

/-- Adds the types of processors in turn, up to the first that fails. -/
def addAllTypes {σ : Type} [Sink σ] (steps : Nat) (c : InferenceConfig) :
    List Processor → σ → Except SessionError Unit × List Processor × σ
  | [], sink => (.ok (), [], sink)
  | p :: rest, sink =>
    match p.addTypes steps c sink with
    | (.ok (), p, sink) =>
      let (outcome, rest, sink) := addAllTypes steps c rest sink
      (outcome, p :: rest, sink)
    | (.error e, p, sink) => (.error e, p :: rest, sink)

end Processor

structure Session where
  processors : List Processor
  options : SessionOptions

/-- A session whose sources are all resolved. -/
structure ResolvedSession where
  processors : List Processor

namespace Session

def new (options : SessionOptions) : Session := ⟨[], options⟩

def processor? (s : Session) (kind : SourceKind) : Option Processor :=
  s.processors.find? (·.kind = kind)

def push (s : Session) (p : Processor) : Session := { s with processors := s.processors ++ [p] }

/-- Registers a processor, unless there is one of its kind. -/
def register (p : Processor) (s : Session) : Except SessionError Session :=
  if (s.processor? p.kind).isSome then .error (.duplicate p.kind) else .ok (s.push p)

/-- Feeds a source to the first processor of its kind. -/
def feed (files : FileReader) (source : Source) :
    List Processor → Except SessionError Unit × List Processor
  | [] => (.ok (), [])
  | p :: rest =>
    if p.kind = source.kind then
      let (outcome, p) := p.add files source
      (outcome, p :: rest)
    else
      let (outcome, rest) := feed files source rest
      (outcome, p :: rest)

/-- Feeds a source to a session that has a processor for it. -/
def route (source : Source) (s : Session) : Except SessionError Unit × Session :=
  let (outcome, processors) := feed s.options.files source s.processors
  (outcome, { s with processors := processors })

/-- Adds a source; where its kind has no processor yet, `make` makes one. -/
def addWith (make : Unit → Processor) (source : Source) (s : Session) :
    Except SessionError Unit × Session :=
  if (s.processor? source.kind).isSome then s.route source
  else
    let p := make ()
    if p.kind = source.kind then (s.push p).route source
    else (.error (.kindMismatch source.kind p.kind), s)

def add (source : Source) (s : Session) : Except SessionError Unit × Session :=
  s.addWith (fun _ => .ofKind s.options source.kind) source

/-- Resolves all sources. The session that is left beside a failure shows how far it got. -/
def finish (s : Session) : Except SessionError ResolvedSession × Session :=
  let (outcome, processors) := Processor.finishAll s.processors
  (outcome.map fun _ => ⟨processors⟩, { s with processors := processors })

end Session

namespace ResolvedSession

def addTypes {σ : Type} [Sink σ] (steps : Nat) (c : InferenceConfig) (s : ResolvedSession)
    (sink : σ) : Except SessionError Unit × ResolvedSession × σ :=
  let (outcome, processors, sink) := Processor.addAllTypes steps c s.processors sink
  (outcome, ⟨processors⟩, sink)

end ResolvedSession

end JsonTypes
