import JsonTypes.Schema.Materialize
import JsonTypes.Session.Error

/-!
# Schemas given to a session

The schemas that are recorded, with the addresses of their top levels. A source without an address
for its document, or with an empty one, gets the next synthetic document. The text of a source is
the document at each of its addresses; a later text replaces an earlier one.

When all sources are there, their addresses are resolved to named locations. A resolution that
fails changes nothing but the list of fetches.
-/

namespace JsonTypes

structure SchemaSources where
  /-- The store for documents without a text. -/
  backing : Option SchemaStore
  /-- The producers that run behind the built-in ones. -/
  producers : List AttributeProducer
  /-- Whether some schema still needs inference of types. -/
  needsInference : Bool
  /-- How many sources were added. -/
  count : Nat
  sources : List (SchemaUri × SchemaSource)
  texts : Entries DocumentId String
  topLevels : Entries String Location
  /-- What resolved the top levels, with the documents it got. -/
  resolver : Option Resolver
  /-- The fetches from the backing store, in order. -/
  log : List DocumentId

namespace SchemaSources

def new (backing : Option SchemaStore) (producers : List AttributeProducer) : SchemaSources :=
  ⟨backing, producers, false, 0, [], [], [], none, []⟩

/-- The addresses of a source, given the document for those that have none. -/
def urisOf (source : SchemaSource) (synthetic : DocumentId) : List SchemaUri :=
  match source.uris.getD [] with
  | [] => [(SchemaUri.parse "").withDocument synthetic]
  | uris => uris.map fun raw =>
    let uri := SchemaUri.parse raw
    if uri.document.isEmpty then uri.withDocument synthetic else uri

/-- The text of a source is the document at each of its addresses. -/
def putText (uris : List SchemaUri) (texts : Entries DocumentId String) :
    Option String → Entries DocumentId String
  | none => texts
  | some text => uris.foldl (fun ts uri => ts.put uri.document text) texts

def add (source : SchemaSource) (s : SchemaSources) : Except SessionError Unit × SchemaSources :=
  if source.name.isEmpty then (.error (.emptyName .schema), s)
  else if (source.uris.getD []).isEmpty ∧ source.schema.isNone then
    (.error (.missingSchema source.name), s)
  else
    let count := s.count + 1
    let uris := urisOf source (.synthetic count)
    (.ok (), { s with
      needsInference := s.needsInference || source.isConverted ≠ some true
      count := count
      sources := s.sources ++ uris.map fun uri => (uri, source)
      texts := putText uris s.texts source.schema })

/-! ## Resolution -/

/-- The name of a top level that an address stands for alone. The only address of all sources is
named by its source. -/
def singleName (alone : Bool) (source : SchemaSource) (name : String) : String :=
  if alone then source.name else name

def putRefs (alone : Bool) (source : SchemaSource) (topLevels : Entries String Location) :
    ResolvedRefs → Entries String Location
  | .single name l => topLevels.put (singleName alone source name) l
  | .multiple refs => refs.foldl (fun ts e => ts.put e.1 e.2) topLevels

/-- The top levels of all addresses. Of two with one name the later gives the location. -/
def resolveAll (alone : Bool) :
    List (SchemaUri × SchemaSource) → Entries String Location → Resolve (Entries String Location)
  | [], topLevels => pure topLevels
  | (uri, source) :: rest, topLevels => do
    let refs ← Resolver.refsForUri uri source.name
    resolveAll alone rest (putRefs alone source topLevels refs)

def store (s : SchemaSources) : InputStore := ⟨s.texts, s.backing⟩

def finish (s : SchemaSources) : Except SessionError Unit × SchemaSources :=
  if s.sources.isEmpty then (.ok (), s)
  else if s.texts.isEmpty ∧ s.backing.isNone then (.error .noStore, s)
  else
    match resolveAll (s.sources.length = 1) s.sources [] (.new s.store s.log) with
    | (.error e, r) => (.error (.schema e), { s with log := r.log })
    | (.ok topLevels, r) =>
      (.ok (), { s with topLevels := topLevels, resolver := some r, log := r.log })

/-! ## Types -/

/-- Adds the top levels with their types to a sink, once they are resolved. -/
def addTypes {σ : Type} [Sink σ] (steps : Nat) (s : SchemaSources) (sink : σ) :
    Except SessionError Unit × SchemaSources × σ :=
  match s.resolver with
  | none => (.ok (), s, sink)
  | some r =>
    let producers := AttributeProducer.builtIn ++ s.producers
    let (outcome, r, sink) :=
      Materialize.runInto steps producers s.topLevels { r with log := s.log } sink
    (outcome.mapError .schema, { s with resolver := some r, log := r.log }, sink)

/-- The one text that all sources carry, without blanks at its ends. -/
def singleText (s : SchemaSources) : Option String := do
  let texts ← s.sources.mapM fun e => e.2.schema
  match texts.map fun text => String.ofList (Text.trim text.toList) with
  | [] => none
  | text :: rest => if rest.all (· = text) then some text else none

end SchemaSources

end JsonTypes
