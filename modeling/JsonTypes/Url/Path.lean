import JsonTypes.Url.Host

/-!
# Paths of URLs

A path is built segment by segment from the text of a URL, onto the path it is relative to. A
segment `..` takes the last segment away and `.` stands for nothing, also where the points are
percent-encoded. A Windows drive letter is never taken away, and at the start of a file path it
gets its colon.
-/

namespace JsonTypes.Url

/-- How a URL is read depends on its scheme. -/
inductive SchemeKind where
  | file
  | special
  | other
deriving DecidableEq, Repr

namespace SchemeKind

def ofScheme (scheme : List Char) : SchemeKind :=
  if scheme = "file".toList then file
  else if ["http", "https", "ws", "wss", "ftp"].any (·.toList = scheme) then special
  else other

/-- In these URLs a backslash separates segments as a slash does. -/
def hasBackslash (k : SchemeKind) : Bool := k ≠ other

end SchemeKind

def isDriveLetter : List Char → Bool
  | [a, b] => isAsciiAlpha a && (b = ':' || b = '|')
  | _ => false

def isNormalDriveLetter : List Char → Bool
  | [a, b] => isAsciiAlpha a && b = ':'
  | _ => false

def isEndOfSegment (c : Char) : Bool := c = '/' || c = '\\' || c = '?' || c = '#'

/-- Whether a text starts with a drive letter that is a whole segment. -/
def startsWithDriveLetter : List Char → Bool
  | [a, b] => isDriveLetter [a, b]
  | a :: b :: c :: _ => isDriveLetter [a, b] && isEndOfSegment c
  | _ => false

/-- A path up to and with its last slash. -/
def directoryOf (path : List Char) : List Char :=
  (path.reverse.dropWhile (· ≠ '/')).reverse

/-- What stands behind the last slash of a path. -/
def lastSegment (path : List Char) : List Char :=
  (path.reverse.takeWhile (· ≠ '/')).reverse

theorem directoryOf_append_lastSegment (path : List Char) :
    directoryOf path ++ lastSegment path = path := by
  rw [directoryOf, lastSegment, ← List.reverse_append, List.takeWhile_append_dropWhile,
    List.reverse_reverse]

theorem slash_not_mem_lastSegment (path : List Char) : '/' ∉ lastSegment path := by
  rw [lastSegment, List.mem_reverse]
  intro h
  have hall := List.all_takeWhile (p := (· ≠ '/')) (l := path.reverse)
  exact absurd (List.all_eq_true.1 hall _ h) (by decide)

/-- A directory ends with a slash, unless there is none in the path. -/
theorem directoryOf_cases (path : List Char) :
    directoryOf path = [] ∨ (directoryOf path).getLast? = some '/' := by
  rw [directoryOf, List.getLast?_reverse, List.reverse_eq_nil_iff]
  have hhead := List.head?_dropWhile_not (· ≠ '/') path.reverse
  rcases hdrop : path.reverse.dropWhile (· ≠ '/') with _ | ⟨c, rest⟩
  · exact .inl rfl
  · rw [hdrop] at hhead
    right
    simpa using hhead

/-- Takes the last segment away, unless it is the drive letter of a file path. -/
def popSegment (kind : SchemeKind) (path : List Char) : List Char :=
  if kind = .file ∧ isNormalDriveLetter (lastSegment path) then path else directoryOf path

/-- Whether the slash at the end may go: there is one before it, and no drive letter in between. -/
def canDropSlash (path : List Char) : Bool :=
  let front := path.dropLast
  front.contains '/' && !startsWithDriveLetter (lastSegment front ++ ['/'])

/-- Goes up from a path that ends with a slash. -/
def goUp (kind : SchemeKind) (path : List Char) : List Char :=
  let path := if path.getLast? = some '/' ∧ canDropSlash path then path.dropLast else path
  popSegment kind path

def endWithSlash (path : List Char) : List Char :=
  if path.getLast? = some '/' then path else path ++ ['/']

/-- Replaces percent-encoded points by points. -/
def decodePoints : List Char → List Char
  | '%' :: '2' :: 'e' :: cs => '.' :: decodePoints cs
  | '%' :: '2' :: 'E' :: cs => '.' :: decodePoints cs
  | c :: cs => c :: decodePoints cs
  | [] => []

/-- A path being read: what was read of it, and whether the URL still has its host. -/
structure PathState where
  path : List Char
  hasHost : Bool

/-- Adds a segment, written as it is printed. `slash` says whether a slash follows. -/
def PathState.addSegment (kind : SchemeKind) (s : PathState) (segment : List Char)
    (slash : Bool) : PathState :=
  let dots := decodePoints segment
  if dots = ['.', '.'] then
    let up := goUp kind s.path
    { s with path := if slash then endWithSlash up else up }
  else if dots = ['.'] then { s with path := endWithSlash s.path }
  else
    let tail := if slash then ['/'] else []
    match segment with
    | [a, _] =>
      if kind = .file ∧ s.path = ['/'] ∧ isDriveLetter segment then
        ⟨s.path ++ [a, ':'] ++ tail, false⟩
      else { s with path := s.path ++ segment ++ tail }
    | _ => { s with path := s.path ++ segment ++ tail }

/-- A drive letter at the end of a file path gets a slash before more text comes. -/
def PathState.beforeText (kind : SchemeKind) (s : PathState) : PathState :=
  match s.path with
  | '/' :: rest =>
    if kind = .file ∧ isNormalDriveLetter rest then { s with path := s.path ++ ['/'] } else s
  | _ => s

def isSlash (kind : SchemeKind) (c : Char) : Bool := c = '/' || (c = '\\' && kind.hasBackslash)

/-- Reads segments up to a query. `segment` is what was read of the last one, in reverse. -/
def readSegments (kind : SchemeKind) : List Char → List Char → PathState → PathState × List Char
  | [], segment, s => (s.addSegment kind segment.reverse false, [])
  | c :: cs, segment, s =>
    if isSlash kind c then readSegments kind cs [] (s.addSegment kind segment.reverse true)
    else if c = '?' then (s.addSegment kind segment.reverse false, c :: cs)
    else
      let s := if segment.isEmpty then s.beforeText kind else s
      readSegments kind cs ((percentEncode pathSet [c]).reverse ++ segment) s

/-- Reads a path onto what there is of it. The path of a file starts with one slash. -/
def readPath (kind : SchemeKind) (hasHost : Bool) (path text : List Char) :
    PathState × List Char :=
  let (s, rest) := readSegments kind text [] ⟨path, hasHost⟩
  if kind = .file then ({ s with path := '/' :: s.path.dropWhile (· = '/') }, rest) else (s, rest)

end JsonTypes.Url
