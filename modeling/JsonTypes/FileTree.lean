import JsonTypes.Text.Split
import JsonTypes.Text.Utf8

/-!
# Trees of files

Paths, and the files under a base directory. A path is bytes, as the path of a URL may hold any, and
is read as components: repeated slashes and single points count for nothing, except for a point that
a relative path starts with. A name is looked up in a directory; a parent segment leads out of it
again.
-/

namespace JsonTypes

abbrev PathName := List UInt8

structure FilePath where
  bytes : List UInt8
deriving DecidableEq, Repr

namespace FilePath

def slash : UInt8 := 0x2F

def point : UInt8 := 0x2E

def parent : PathName := [point, point]

inductive Component where
  | root
  /-- The point that a relative path starts with. -/
  | here
  | parent
  | name (n : PathName)
deriving DecidableEq, Repr

def ofText (s : String) : FilePath := ⟨s.toUTF8.data.toList⟩

def isAbsolute (p : FilePath) : Bool := p.bytes.head? = some slash

/-- The path from where it starts, without the root. -/
def relative (p : FilePath) : FilePath := ⟨p.bytes.dropWhile (· = slash)⟩

/-- What stands between slashes. -/
def parts (p : FilePath) : List PathName := Text.splitOn slash p.bytes

def component? (part : PathName) : Option Component :=
  if part = [] ∨ part = [point] then none
  else if part = parent then some .parent
  else some (.name part)

def start (p : FilePath) : List Component :=
  if p.isAbsolute then [.root] else if p.parts.head? = some [point] then [.here] else []

/-- The components behind the start. -/
def steps (p : FilePath) : List Component := p.parts.filterMap component?

def components (p : FilePath) : List Component := p.start ++ p.steps

/-- The names to look up in turn, parent segments among them. -/
def names (p : FilePath) : List PathName := p.parts.filter fun part => (component? part).isSome

/-- Whether the path can only lead to a directory, as it ends with a slash or a point. -/
def isDirectory (p : FilePath) : Bool :=
  p.parts.getLast? = some [] || p.parts.getLast? = some [point]

def hasParent (p : FilePath) : Bool := p.components.contains .parent

/-- A path from a base on. One that is absolute takes the place of the base. -/
def join (base p : FilePath) : FilePath :=
  if p.isAbsolute then p
  else if base.bytes = [] ∨ base.bytes.getLast? = some slash then ⟨base.bytes ++ p.bytes⟩
  else ⟨base.bytes ++ slash :: p.bytes⟩

def startsWith (p base : FilePath) : Bool := base.components.isPrefixOf p.components

end FilePath

inductive FileContent where
  | directory
  | bytes (content : List UInt8)
deriving DecidableEq, Repr

/-- Files and directories under a base directory, by their names from there on. A later entry of
the same path counts. -/
structure FileTree where
  base : FilePath
  entries : List (List PathName × FileContent)

namespace FileTree

/-- What is at a path under the base: an entry, or a directory that an entry lies in. -/
def entry? (t : FileTree) (names : List PathName) : Option FileContent :=
  match t.entries.reverse.find? (·.1 = names) with
  | some e => some e.2
  | none =>
    if names = [] ∨ t.entries.any (fun e => names.isPrefixOf e.1) then some .directory else none

/-- What is at a path from the root on, as far as the tree knows. -/
def content? (t : FileTree) (names : List PathName) : Option FileContent :=
  if names.isPrefixOf t.base.names then some .directory
  else if t.base.names.isPrefixOf names then t.entry? (names.drop t.base.names.length)
  else none

inductive ReadError where
  | notFound
  | other
deriving DecidableEq, Repr

/-- How long a name may be. -/
def maxNameLength : Nat := 255

/-- Goes along names from a place on. What a name is looked up in must be a directory. -/
def walk (t : FileTree) : List PathName → List PathName → Except ReadError (List PathName)
  | here, [] => .ok here
  | here, name :: rest =>
    match t.content? here with
    | some .directory =>
      if name = FilePath.parent then t.walk here.dropLast rest
      else if maxNameLength < name.length then .error .other
      else t.walk (here ++ [name]) rest
    | some (.bytes _) => .error .other
    | none => .error .notFound

/-- The bytes of the file at a path. -/
def readBytes (t : FileTree) (p : FilePath) : Except ReadError (List UInt8) :=
  if p.bytes.contains 0 then .error .other
  else
    match t.walk [] p.names with
    | .error e => .error e
    | .ok names =>
      match t.content? names with
      | none => .error .notFound
      | some .directory => .error .other
      | some (.bytes content) => if p.isDirectory then .error .other else .ok content

/-- The text of the file at a path. -/
def readText (t : FileTree) (p : FilePath) : Except ReadError String :=
  match t.readBytes p with
  | .error e => .error e
  | .ok content =>
    match Text.utf8Text? content with
    | some text => .ok text
    | none => .error .other

end FileTree

end JsonTypes
