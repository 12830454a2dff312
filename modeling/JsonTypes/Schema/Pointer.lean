import JsonTypes.Text.Split

/-!
# JSON pointers

A pointer names a place inside a document by the keys and positions on the way there. Each is
written behind a slash; in it `~0` stands for a tilde and `~1` for a slash.
-/

namespace JsonTypes.Pointer

/-- Replaces every pair of these two characters, from the left. -/
def replacePair (a b : Char) (by_ : Char) : List Char → List Char
  | x :: y :: cs =>
    if x = a ∧ y = b then by_ :: replacePair a b by_ cs else x :: replacePair a b by_ (y :: cs)
  | cs => cs

def escapeToken (cs : List Char) : List Char :=
  cs.flatMap fun c =>
    if c = '~' then ['~', '0'] else if c = '/' then ['~', '1'] else [c]

def unescapeToken (cs : List Char) : List Char :=
  replacePair '~' '0' '~' (replacePair '~' '1' '/' cs)

def render (tokens : List String) : List Char :=
  tokens.flatMap fun token => '/' :: escapeToken token.toList

/-- The tokens of a pointer. What stands before the first slash is not looked at. -/
def parse (cs : List Char) : List String :=
  (Text.splitOn '/' cs).tail.map fun part => String.ofList (unescapeToken part)

end JsonTypes.Pointer
