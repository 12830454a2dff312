import JsonTypes.Schema.Pointer
import JsonTypes.Text.Blank
import JsonTypes.Url.Parser

/-!
# Addresses of schemas

A document has an address, a URL or a relative path, kept in normal form so that one document has
one address. A schema address is that of a document together with a fragment, which leads to a
place in the document. Documents without an address of their own get a synthetic one, a hyphen
and a number.

A reference is resolved against the address of the document that it stands in. A schema without a
name is named after the last segment of its fragment, or after the file of its document.
-/

namespace JsonTypes

structure DocumentId where
  text : String
deriving DecidableEq, Repr

structure SchemaUri where
  document : DocumentId
  fragment : Option String
deriving DecidableEq, Repr

namespace Address

/-- What stands before the first number sign, and what behind it. -/
def splitFragment (cs : List Char) : List Char × Option (List Char) :=
  match cs.dropWhile (· ≠ '#') with
  | [] => (cs, none)
  | _ :: fragment => (cs.takeWhile (· ≠ '#'), some fragment)

/-- An empty fragment is no fragment. -/
def nonEmpty (fragment : Option (List Char)) : Option String :=
  match fragment with
  | some (c :: cs) => some (String.ofList (c :: cs))
  | _ => none

/-! ## Relative paths -/

/-- Walks the segments of a path. A parent segment takes the last name away; without one it is
counted, unless the path is absolute. -/
def walk (absolute : Bool) : List (List Char) → Nat × List (List Char) → Nat × List (List Char)
  | [], s => s
  | segment :: rest, (parents, names) =>
    if segment = [] ∨ segment = ['.'] then walk absolute rest (parents, names)
    else if segment = ['.', '.'] then
      match names with
      | [] => walk absolute rest (if absolute then parents else parents + 1, [])
      | _ :: _ => walk absolute rest (parents, names.dropLast)
    else walk absolute rest (parents, names ++ [segment])

/-- Whether a path names a directory. -/
def isDirectoryPath (path : List Char) : Bool :=
  ['/'].isSuffixOf path || ['/', '.'].isSuffixOf path || ['/', '.', '.'].isSuffixOf path

/-- Resolves the dot segments of a path as far as the path itself allows. -/
def removeDotSegments (path : List Char) : List Char :=
  let absolute := path.head? = some '/'
  let (parents, names) := walk absolute (Text.splitOn '/' path) (0, [])
  (if absolute then ['/'] else []) ++
  (List.replicate parents ['.', '.', '/']).flatten ++
  ['/'].intercalate names ++
  (if isDirectoryPath path && !names.isEmpty then ['/'] else [])

/-- The normal form of a document's address. -/
def normalize (cs : List Char) : List Char :=
  let trimmed := Text.trim cs
  if trimmed.isEmpty then []
  else
    match Url.parse? (String.ofList trimmed) with
    | some url => url.renderChars
    | none => removeDotSegments trimmed

end Address

namespace DocumentId

open Address

def ofChars (cs : List Char) : DocumentId := ⟨String.ofList cs⟩

/-- The address of the document that a text names. -/
def parse (raw : String) : DocumentId := ofChars (normalize (splitFragment raw.toList).1)

/-- The address of the document with this number among those that have none of their own. -/
def synthetic (n : Nat) : DocumentId := ⟨"-" ++ toString n⟩

def isEmpty (d : DocumentId) : Bool := d.text.isEmpty

def isSynthetic (d : DocumentId) : Bool :=
  match d.text.toList with
  | '-' :: cs => !cs.isEmpty && cs.all Url.isAsciiDigit
  | _ => false

def isAbsolute (d : DocumentId) : Bool := (Url.parse? d.text).isSome

/-- The last segment of the path, without the query. -/
def fileName? (d : DocumentId) : Option String :=
  match Url.lastSegment (d.text.toList.takeWhile (· ≠ '?')) with
  | [] => none
  | name => some (String.ofList name)

/-- The address that a reference in this document leads to, for what it says before its fragment. -/
def resolveDocument (d : DocumentId) (reference : List Char) : DocumentId :=
  let text := String.ofList reference
  if (Url.parse? text).isSome then ofChars (normalize reference)
  else
    match Url.parse? d.text with
    | some base =>
      match base.join? text with
      | some url => ofChars url.renderChars
      | none => ofChars (normalize reference)
    | none =>
      if reference.head? = some '/' then ofChars (normalize reference)
      else ofChars (normalize (Url.directoryOf d.text.toList ++ reference))

/-- The schema that a reference in this document leads to. -/
def resolve (d : DocumentId) (reference : String) : SchemaUri :=
  let (document, fragment) := splitFragment reference.toList
  ⟨if document.isEmpty then d else d.resolveDocument document, nonEmpty fragment⟩

end DocumentId

namespace SchemaUri

open Address

def parse (raw : String) : SchemaUri :=
  let (document, fragment) := splitFragment (Text.trim raw.toList)
  ⟨.ofChars (normalize document), nonEmpty fragment⟩

def withDocument (u : SchemaUri) (d : DocumentId) : SchemaUri := { u with document := d }

def withFragment (u : SchemaUri) (fragment : Option String) : SchemaUri :=
  { u with fragment := nonEmpty (fragment.map String.toList) }

def render (u : SchemaUri) : String :=
  match u.fragment with
  | some f => u.document.text ++ "#" ++ f
  | none => u.document.text

/-! ## Names -/

/-- A name without the ending that says it is a schema or JSON. -/
def removeExtension (name : List Char) : List Char :=
  let lower := name.map Url.asciiLower
  if ".json".toList.isSuffixOf lower then name.take (name.length - 5)
  else if ".schema".toList.isSuffixOf lower then name.take (name.length - 7)
  else name

/-- The last segment of a fragment that is not empty, among its last two. -/
def lastFragmentSegment? (fragment : String) : Option (List Char) :=
  ((Text.splitOn '/' fragment.toList).reverse.take 2).find? (!·.isEmpty)

def nameOfFragment? (u : SchemaUri) : Option String :=
  (u.fragment.bind lastFragmentSegment?).map fun segment =>
    String.ofList (removeExtension (Pointer.unescapeToken segment))

def nameOfFile? (u : SchemaUri) : Option String :=
  if u.document.isSynthetic then none
  else
    (u.document.fileName?.map fun name => String.ofList (removeExtension name.toList)).filter
      (!·.isEmpty)

/-- The name that the address itself gives a schema. -/
def name? (u : SchemaUri) : Option String := u.nameOfFragment?.orElse fun _ => u.nameOfFile?

end SchemaUri

end JsonTypes
