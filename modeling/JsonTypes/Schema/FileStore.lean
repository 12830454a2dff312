import JsonTypes.FileTree
import JsonTypes.Schema.Store

/-!
# Schema documents in files

A file store serves relative addresses and file URLs from beneath a base directory. An address that
would lead out of it is refused: no component of a path may be a parent, and the path of a URL must
start with the components of the base.
-/

namespace JsonTypes

/-- A file URL's path, if the file is on this machine. -/
def Url.filePath? (u : Url) : Option FilePath :=
  if u.isOpaque ∨ ¬(u.hostOf = [] ∨ u.hostOf = "localhost".toList) then none
  else
    let bytes := (Text.splitOn '/' u.path.tail).flatMap fun segment =>
      FilePath.slash :: percentDecode segment
    let endsWithDrive := match bytes.reverse with
      | b :: a :: _ :: _ =>
        (b = 0x3A || b = 0x7C) && isAsciiAlpha (Char.ofNat a.toNat)
      | _ => false
    some ⟨if endsWithDrive then bytes ++ [FilePath.slash] else bytes⟩

namespace FileStore

/-- The path of an address, or nothing where the store does not serve it. -/
def resolvePath (base : FilePath) (id : DocumentId) : Except SchemaError (Option FilePath) :=
  if id.isSynthetic ∨ id.isEmpty then .ok none
  else
    match Url.parse? id.text with
    | some url =>
      if url.scheme ≠ Url.fileScheme then .ok none
      else
        match url.filePath? with
        | none => .error (.fetch id.text "not a valid file URL")
        | some path =>
          if path.hasParent ∨ ¬path.startsWith base then
            .error (.fetch id.text "File URL outside the base directory")
          else .ok (some path)
    | none =>
      let path := (FilePath.ofText id.text).relative
      if path.hasParent then .error (.fetch id.text "Path traversal (..) not allowed")
      else .ok (some (base.join path))

/-- What the store answers once a file was read. -/
def answer (id : DocumentId) :
    Except FileTree.ReadError String → Except SchemaError (Option Json)
  | .ok text => (Schema.parse id text).map some
  | .error .notFound => .ok none
  | .error .other => .error .io

/-- Fetches a document by whatever reads the text of a file. -/
def fetchWith {m : Type → Type} [Monad m]
    (read : FilePath → m (Except FileTree.ReadError String)) (base : FilePath) (id : DocumentId) :
    m (Except SchemaError (Option Json)) :=
  match resolvePath base id with
  | .error e => pure (.error e)
  | .ok none => pure (.ok none)
  | .ok (some path) => do return answer id (← read path)

def fetch (t : FileTree) (id : DocumentId) : Except SchemaError (Option Json) :=
  Id.run (fetchWith (fun path => pure (t.readText path)) t.base id)

end FileStore

end JsonTypes
