import JsonTypes.Url.Path

/-!
# URLs

A URL in parts, each held as it is printed. There are no fragments here: an address is split from
its fragment before it is read as a URL.
-/

namespace JsonTypes

namespace Url

structure Authority where
  /-- User name and password with the at sign behind them, or nothing. -/
  userinfo : List Char
  host : List Char
  port : Option Nat
deriving DecidableEq, Repr

end Url

structure Url where
  scheme : List Char
  authority : Option Url.Authority
  path : List Char
  query : Option (List Char)
deriving DecidableEq, Repr

namespace Url

def kind (u : Url) : SchemeKind := .ofScheme u.scheme

/-- A URL whose path is not made of segments has nothing that a reference could be relative to. -/
def isOpaque (u : Url) : Bool := u.authority.isNone && u.path.head? ≠ some '/'

def Authority.render (a : Authority) : List Char :=
  a.userinfo ++ a.host ++ (match a.port with
    | some port => ':' :: (toString port).toList
    | none => [])

/-- Two slashes at the start of a path would read as an authority, so a point comes before them. -/
def renderPath (u : Url) : List Char :=
  match u.authority, u.path with
  | none, '/' :: '/' :: rest => '/' :: '.' :: '/' :: '/' :: rest
  | _, path => path

def renderChars (u : Url) : List Char :=
  u.scheme ++ [':'] ++
  (match u.authority with
    | some a => ['/', '/'] ++ a.render
    | none => []) ++
  u.renderPath ++
  (match u.query with
    | some q => '?' :: q
    | none => [])

def render (u : Url) : String := String.ofList u.renderChars

end Url

end JsonTypes
