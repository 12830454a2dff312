import JsonTypes.Schema.Document

/-!
# Stores of schema documents

A store answers with a document, with nothing, or with an error. What it answers may depend on the
fetches before, so a store is a function of their list and of the address; most stores look at the
address alone.

An input store has texts of its own in front of another store. A text hides what the other store
has at its address, and is read again at every fetch.
-/

namespace JsonTypes

/-- A store, given the addresses that were fetched from it before, in order. -/
abbrev SchemaStore := List DocumentId → DocumentId → Except SchemaError (Option Json)

structure InputStore where
  texts : Entries DocumentId String
  /-- The store that is asked for all other addresses. -/
  backing : Option SchemaStore

namespace InputStore

def hasBacking (s : InputStore) : Bool := s.backing.isSome

/-- Fetches a document; the list is that of the fetches from the backing store. -/
def fetch (s : InputStore) (id : DocumentId) (log : List DocumentId) :
    Except SchemaError (Option Json) × List DocumentId :=
  match s.texts.get? id with
  | some text => ((Schema.parse id text).map some, log)
  | none =>
    match s.backing with
    | some backing => (backing log id, log ++ [id])
    | none => (.error (.unresolvableAddress id.text), log)

end InputStore

end JsonTypes
