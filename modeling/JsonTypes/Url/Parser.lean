import JsonTypes.Url.Basic

/-!
# Reading URLs

A text is a URL of its own if it starts with a scheme and the rest can be read by the rules of
that scheme (`Url.parse?`). Any other text may be read relative to a URL (`Url.join?`), and so may a
text whose scheme is that of the base, if it is special and fewer than two slashes follow.

Controls and spaces around the text are ignored, and tabs and line ends anywhere in it.
-/

namespace JsonTypes.Url

def isControlOrSpace (c : Char) : Bool := c.toNat ≤ 0x20

def isTabOrNewline (c : Char) : Bool := c = '\t' || c = '\n' || c = '\r'

/-- The characters of a text that count. -/
def significant (s : String) : List Char :=
  let front := s.toList.dropWhile isControlOrSpace
  (front.reverse.dropWhile isControlOrSpace).reverse.filter (!isTabOrNewline ·)

def isSchemeChar (c : Char) : Bool :=
  isAsciiAlpha c || isAsciiDigit c || c = '+' || c = '-' || c = '.'

/-- The scheme in lower case, and what stands behind its colon. -/
def scheme? (cs : List Char) : Option (List Char × List Char) :=
  match cs.head?, cs.dropWhile isSchemeChar with
  | some c, ':' :: rest =>
    if isAsciiAlpha c then some ((cs.takeWhile isSchemeChar).map asciiLower, rest) else none
  | _, _ => none

def defaultPort? (scheme : List Char) : Option Nat :=
  if scheme = "http".toList ∨ scheme = "ws".toList then some 80
  else if scheme = "https".toList ∨ scheme = "wss".toList then some 443
  else if scheme = "ftp".toList then some 21
  else none

def querySetOf : SchemeKind → Char → Bool
  | .other => querySet
  | _ => specialQuerySet

/-- What follows a path. -/
def readQuery (kind : SchemeKind) : List Char → Option (List Char)
  | '?' :: cs => some (percentEncode (querySetOf kind) cs)
  | _ => none

/-! ## Authorities -/

def endsAuthority (kind : SchemeKind) (c : Char) : Bool :=
  c = '/' || c = '?' || (c = '\\' && kind.hasBackslash)

/-- What stands before the last at sign of a text, and what behind it. -/
def splitLastAt (cs : List Char) : Option (List Char × List Char) :=
  if cs.contains '@' then
    let behind := (cs.reverse.takeWhile (· ≠ '@')).reverse
    some (cs.take (cs.length - behind.length - 1), behind)
  else none

/-- User name and password, with the colon between them unless there is no password. -/
def renderUserinfo (cs : List Char) : List Char :=
  let name := cs.takeWhile (· ≠ ':')
  let password := (cs.dropWhile (· ≠ ':')).tail
  let text := percentEncode userinfoSet name ++
    (if password.isEmpty then [] else ':' :: percentEncode userinfoSet password)
  if text.isEmpty then [] else text ++ ['@']

/-- What stands before the first colon outside brackets, and the rest from that colon on. -/
def splitPort : Bool → List Char → List Char × List Char
  | _, [] => ([], [])
  | inside, c :: cs =>
    if c = ':' ∧ ¬inside then ([], c :: cs)
    else
      let inside := if c = '[' then true else if c = ']' then false else inside
      let (host, rest) := splitPort inside cs
      (c :: host, rest)

/-- The port after a colon; none if nothing or the usual port of the scheme is written. -/
def readPort? (scheme : List Char) (cs : List Char) : Option (Option Nat) :=
  if cs.isEmpty then some none
  else if cs.all isAsciiDigit then
    match Text.numberInBase? 10 cs with
    | some port =>
      if 65535 < port then none
      else some (if defaultPort? scheme = some port then none else some port)
    | none => none
  else none

/-- An authority that is not that of a file, from the text before the path. Without a host there is
no port, and no user. A backslash ends a port, and then is left over. -/
def readAuthority? (scheme : List Char) (kind : SchemeKind) (text : List Char) (isLast : Bool) :
    Option (Authority × List Char) := do
  let (userinfo, hostText) := (splitLastAt text).getD ([], text)
  if text.contains '@' ∧ userinfo.isEmpty ∧ hostText.isEmpty ∧ ¬isLast then none
  else
    let (hostText, portText) := splitPort false hostText
    let host ← if kind = .special then specialHost? hostText else opaqueHost? hostText
    let userinfo := renderUserinfo userinfo
    if host.isEmpty ∧ ¬(userinfo.isEmpty ∧ portText.isEmpty) then none
    else
      let port ← readPort? scheme (portText.tail.takeWhile (· ≠ '\\'))
      some (⟨userinfo, host, port⟩, portText.dropWhile (· ≠ '\\'))

/-! ## Reading -/

/-- A path with the query behind it. -/
def finish (scheme : List Char) (kind : SchemeKind) (authority : Option Authority)
    (path rest : List Char) : Url :=
  ⟨scheme, authority, path, readQuery kind rest⟩

/-- Reads on after the two slashes of an authority. -/
def afterSlashes? (scheme : List Char) (kind : SchemeKind) (cs : List Char) : Option Url := do
  let text := cs.takeWhile (!endsAuthority kind ·)
  let rest := cs.dropWhile (!endsAuthority kind ·)
  let (authority, left) ← readAuthority? scheme kind text rest.isEmpty
  let rest := left ++ rest
  let start (text : List Char) : Url :=
    let (s, rest) := readPath kind true ['/'] text
    finish scheme kind authority s.path rest
  match kind, rest with
  | .other, [] => some (finish scheme kind authority [] [])
  | .other, '?' :: _ => some (finish scheme kind authority [] rest)
  | _, c :: more => some (start (if isSlash kind c then more else rest))
  | _, [] => some (start [])

/-- Reads on after a scheme that is not special. -/
def readOther? (scheme : List Char) : List Char → Option Url
  | '/' :: '/' :: cs => afterSlashes? scheme .other cs
  | '/' :: cs =>
    let (s, rest) := readPath .other false ['/'] cs
    some (finish scheme .other none s.path rest)
  | cs =>
    let path := cs.takeWhile (· ≠ '?')
    some (finish scheme .other none (percentEncode controlSet path) (cs.dropWhile (· ≠ '?')))

/-! ## File URLs -/

def fileScheme : List Char := "file".toList

def fileUrl (host path rest : List Char) : Url :=
  finish fileScheme .file (some ⟨[], host, none⟩) path rest

/-- Reads on after the two slashes of a file URL. A drive letter there is no host. -/
def fileAfterSlashes? (cs : List Char) : Option Url := do
  let isEnd (c : Char) : Bool := c = '/' || c = '\\' || c = '?'
  let text := cs.takeWhile (!isEnd ·)
  let rest := cs.dropWhile (!isEnd ·)
  let isDrive := isDriveLetter text
  let host ← if isDrive ∨ text.isEmpty then some [] else specialHost? text
  let host := if host = "localhost".toList then [] else host
  let rest := if isDrive then cs else rest
  if host.isEmpty then
    let (s, rest) := readPath .file false ['/'] rest
    some (fileUrl [] s.path rest)
  else
    let start := match rest with
      | c :: more => if isSlash .file c then more else rest
      | [] => []
    let (s, rest) := readPath .file true ['/'] start
    some (fileUrl (if s.hasHost then host else []) s.path rest)

/-- The first segment of a path. -/
def firstSegment (path : List Char) : List Char := path.tail.takeWhile (· ≠ '/')

def hostOf (u : Url) : List Char :=
  match u.authority with
  | some a => a.host
  | none => []

def readFile? (base : Option Url) (cs : List Char) : Option Url :=
  match cs with
  | a :: b :: rest =>
    if isSlash .file a ∧ isSlash .file b then fileAfterSlashes? rest else oneSlash cs
  | _ => oneSlash cs
where
  /-- A file URL that does not go on with two slashes. -/
  oneSlash (cs : List Char) : Option Url :=
    match base, cs with
    | base, c :: more =>
      if isSlash .file c then
        let segment := base.elim [] fun b => firstSegment b.path
        let (host, path) :=
          if startsWithDriveLetter more then ([], [])
          else if isNormalDriveLetter segment then ([], '/' :: segment)
          else (base.elim [] hostOf, [])
        let (s, rest) := readPath .file false path cs
        some (fileUrl host s.path rest)
      else
        match base with
        | none => fresh cs
        | some b =>
          if c = '?' then some { b with query := readQuery .file cs }
          else if startsWithDriveLetter cs then fresh cs
          else
            let (s, rest) := readPath .file true (popSegment .file b.path) cs
            some (finish fileScheme .file b.authority s.path rest)
    | some b, [] => some b
    | none, [] => fresh []
  fresh (cs : List Char) : Option Url :=
    let (s, rest) := readPath .file false ['/'] cs
    some (fileUrl [] s.path rest)

/-! ## References -/

/-- Reads a text relative to a URL that is not that of a file. -/
def readRelative? (base : Url) (cs : List Char) : Option Url :=
  let kind := base.kind
  let onto (path text : List Char) : Option Url :=
    let (s, rest) := readPath kind true path text
    some (finish base.scheme kind base.authority s.path rest)
  match cs with
  | [] => some base
  | c :: more =>
    if c = '?' then some { base with query := readQuery kind cs }
    else if c = '/' ∨ c = '\\' then
      match more with
      | d :: rest =>
        if d = '/' ∨ d = '\\' then
          let behind := if c = '/' ∧ d = '/' then rest
            else cs.dropWhile fun x => x = '/' || x = '\\'
          afterSlashes? base.scheme kind behind
        else onto ['/'] more
      | [] => onto ['/'] more
    else
      let path := popSegment kind base.path
      onto (if path.isEmpty then ['/'] else path) cs

/-- Reads on after a scheme. -/
def readWithScheme? (base : Option Url) (scheme cs : List Char) : Option Url :=
  match SchemeKind.ofScheme scheme with
  | .file => readFile? (base.filter (·.scheme = fileScheme)) cs
  | .other => readOther? scheme cs
  | .special =>
    let isEnd (c : Char) : Bool := c = '/' || c = '\\'
    let slashes := (cs.takeWhile isEnd).length
    match base with
    | some b =>
      if slashes < 2 ∧ b.scheme = scheme then readRelative? b cs
      else afterSlashes? scheme .special (cs.dropWhile isEnd)
    | none => afterSlashes? scheme .special (cs.dropWhile isEnd)

/-- Reads a text as a URL of its own. -/
def parse? (s : String) : Option Url :=
  (scheme? (significant s)).bind fun (scheme, rest) => readWithScheme? none scheme rest

/-- Reads a text as a reference from a URL. -/
def join? (base : Url) (s : String) : Option Url :=
  let cs := significant s
  match scheme? cs with
  | some (scheme, rest) => readWithScheme? (some base) scheme rest
  | none =>
    if base.isOpaque then none
    else if base.kind = .file then readFile? (some base) cs
    else readRelative? base cs

end JsonTypes.Url
