import JsonTypes.Schema.Location
import JsonTypes.Schema.Store

/-!
# Resolving references

A resolver keeps every document that it has got, so none is fetched twice. An address resolves to
a location: its fragment is a pointer, an anchor or absent, and the location must exist.

An address may also stand for several top levels: with a slash at the end of its fragment, for one
under every key of the object there.
-/

namespace JsonTypes

structure Resolver where
  store : InputStore
  documents : Entries DocumentId Json
  /-- The fetches from the backing store, in order. -/
  log : List DocumentId

/-- An action of a resolver that may fail; what was fetched before a failure stays. -/
abbrev Resolve := ExceptT SchemaError (StateM Resolver)

/-- The top levels that an address stands for. -/
inductive ResolvedRefs where
  | single (name : String) (location : Location)
  | multiple (refs : List (String × Location))
deriving DecidableEq, Repr

namespace Resolver

def new (store : InputStore) (log : List DocumentId) : Resolver := ⟨store, [], log⟩

def fetchedDocuments (r : Resolver) : Nat := r.documents.length

/-- The document at an address, fetched unless it is there already. -/
def document (id : DocumentId) : Resolve Json := fun r =>
  match r.documents.get? id with
  | some document => (.ok document, r)
  | none =>
    let (answer, log) := r.store.fetch id r.log
    let r := { r with log := log }
    match answer with
    | .error e => (.error e, r)
    | .ok none => (.error (.unresolvableAddress id.text), r)
    | .ok (some document) => (.ok document, { r with documents := r.documents.put id document })

/-- The location that an address means in its document. -/
def locate (uri : SchemaUri) (document : Json) : Except SchemaError Location :=
  match uri.fragment with
  | none => .ok (.root uri.document)
  | some fragment =>
    if fragment.toList.head? = some '/' then .ok (.ofPointer uri.document fragment)
    else
      match document.findAnchor? fragment with
      | some path => .ok ⟨uri.document, path⟩
      | none =>
        .error (.unresolvedPointer uri.render ("no anchor named '" ++ fragment ++ "'"))

def resolve (uri : SchemaUri) : Resolve Location := do
  let document ← document uri.document
  let location ← locate uri document
  let _ ← lookup document location
  return location

def schemaAt (location : Location) : Resolve Json := do
  lookup (← document location.document) location

/-- An address without the slash that its fragment ends with, and whether there was one. -/
def withoutFinalSlash (uri : SchemaUri) : SchemaUri × Bool :=
  match uri.fragment with
  | none => (uri, false)
  | some fragment =>
    if fragment.toList.getLast? = some '/' then
      (uri.withFragment (some (String.ofList fragment.toList.dropLast)), true)
    else (uri, false)

/-- One top level for every key of the object at a location. -/
def refsOfMembers (location : Location) : Json → Except SchemaError ResolvedRefs
  | .object members =>
    if Entries.hasKey members "" then
      .error (.unsupported location.render "an empty member name cannot name a top level")
    else .ok (.multiple (members.map fun e => (e.1, location.push e.1)))
  | v =>
    .error (.unresolvedPointer location.render
      ("cannot take types from the properties of a " ++ v.kindName))

/-- The name of a schema: its title, else what its address says, else a default. -/
def nameOf (uri : SchemaUri) (schema : Json) (default : String) : String :=
  match ((schema.member? "title").bind Json.string?).filter (!·.isEmpty) with
  | some title => title
  | none => uri.name?.getD default

def refsForUri (uri : SchemaUri) (default : String) : Resolve ResolvedRefs := do
  let (uri, fromMembers) := withoutFinalSlash uri
  let location ← resolve uri
  let schema ← schemaAt location
  if fromMembers && !location.isRoot then refsOfMembers location schema
  else return .single (nameOf uri schema default) location

end Resolver

end JsonTypes
