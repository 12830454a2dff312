import JsonTypes.Json.Basic
import JsonTypes.Schema.Address
import JsonTypes.Schema.Error
import JsonTypes.Text.Digit

/-!
# Locations in documents

A location is a document and the way from its root to a place in it: keys of objects and positions
of arrays. `lookup` follows the way; a position may be written with a plus sign and with zeros in
front. An anchor names the first schema, in the order of the document, that declares it
(`findAnchor?`).
-/

namespace JsonTypes

structure Location where
  document : DocumentId
  path : List String
deriving DecidableEq, Repr

namespace Location

def root (document : DocumentId) : Location := ⟨document, []⟩

def isRoot (l : Location) : Bool := l.path.isEmpty

def push (l : Location) (token : String) : Location := { l with path := l.path ++ [token] }

def pointer (l : Location) : String := String.ofList (Pointer.render l.path)

def ofPointer (document : DocumentId) (pointer : String) : Location :=
  ⟨document, Pointer.parse pointer.toList⟩

def render (l : Location) : String := l.document.text ++ "#" ++ l.pointer

end Location

/-- The number that a token writes as a position in an array. -/
def arrayPosition? (token : String) : Option Nat :=
  match token.toList with
  | [] => none
  | '+' :: cs => if cs.isEmpty then none else Text.asciiNumber? cs
  | cs => Text.asciiNumber? cs

namespace Json

/-- The value one step further in. -/
def child? : Json → String → Option Json
  | object members, token => Entries.get? members token
  | array items, token => (arrayPosition? token).bind (items[·]?)
  | _, _ => none

/-- The value at the end of a way, or the first token that leads nowhere. -/
def follow : Json → List String → Except String Json
  | v, [] => .ok v
  | v, token :: rest =>
    match v.child? token with
    | some child => follow child rest
    | none => .error token

/-- The text behind the number sign of an `$id` that is nothing but a fragment. -/
def fragmentOfId? (schema : Json) : Option String :=
  match (schema.member? "$id").bind string? with
  | some id =>
    match id.toList with
    | '#' :: cs => some (String.ofList cs)
    | _ => none
  | none => none

/-- Whether a schema declares an anchor, by `$anchor` or by an `$id`. -/
def declaresAnchor (anchor : String) (schema : Json) : Bool :=
  (schema.member? "$anchor").bind string? = some anchor || fragmentOfId? schema = some anchor

mutual

/-- The way to the first schema that declares an anchor. -/
def findAnchor? (anchor : String) : Json → Option (List String)
  | object members =>
    if declaresAnchor anchor (object members) then some []
    else findInMembers? anchor members
  | array items => findInItems? anchor items 0
  | _ => none

def findInMembers? (anchor : String) : List (String × Json) → Option (List String)
  | [] => none
  | (k, v) :: rest =>
    match findAnchor? anchor v with
    | some path => some (k :: path)
    | none => findInMembers? anchor rest

def findInItems? (anchor : String) : List Json → Nat → Option (List String)
  | [], _ => none
  | v :: rest, i =>
    match findAnchor? anchor v with
    | some path => some (toString i :: path)
    | none => findInItems? anchor rest (i + 1)

end

end Json

/-- The value at a location, given the document. -/
def lookup (document : Json) (l : Location) : Except SchemaError Json :=
  (document.follow l.path).mapError fun token =>
    .unresolvedPointer l.render ("no member '" ++ token ++ "'")

end JsonTypes
