import JsonTypes.Url.Domain

/-!
# Hosts of URLs

The host of a special URL is an IPv6 address in brackets, an IPv4 address where its last part is a
number, or else a domain. The host of any other URL is kept as it is, except that controls are
percent-encoded.

A host is given as the text it is printed as.
-/

namespace JsonTypes.Url

/-! ## Numbers -/

def isAsciiDigit (c : Char) : Bool := '0' ≤ c && c ≤ '9'

def isAsciiAlpha (c : Char) : Bool := ('a' ≤ c && c ≤ 'z') || ('A' ≤ c && c ≤ 'Z')

/-- A part of an IPv4 address: hexadecimal after `0x`, octal after `0`, else decimal. -/
def ipv4Number? : List Char → Option Nat
  | [] => none
  | '0' :: x :: cs =>
    if x = 'x' ∨ x = 'X' then Text.numberInBase? 16 cs else Text.numberInBase? 8 (x :: cs)
  | cs => Text.numberInBase? 10 cs

def dropLastEmpty (parts : List (List Char)) : List (List Char) :=
  if 1 < parts.length ∧ parts.getLast? = some [] then parts.dropLast else parts

def endsInNumber (cs : List Char) : Bool :=
  match (dropLastEmpty (Text.splitOn '.' cs)).getLast? with
  | none => false
  | some part => (!part.isEmpty && part.all isAsciiDigit) || (ipv4Number? part).isSome

/-- The address that the parts make: each but the last is a byte, the last fills what is left. -/
def ipv4Address? (cs : List Char) : Option Nat := do
  let parts := dropLastEmpty (Text.splitOn '.' cs)
  if 4 < parts.length then none
  else
    let numbers ← parts.mapM ipv4Number?
    let last ← numbers.getLast?
    let front := numbers.dropLast
    let room := Nat.pow 256 (4 - front.length)
    if room ≤ last ∨ front.any (255 < ·) then none
    else some (front.foldl (fun n b => n * 256 + b) 0 * room + last)

def renderIpv4 (n : Nat) : List Char :=
  (String.intercalate "." <|
    [n / 0x1000000, n / 0x10000 % 256, n / 0x100 % 256, n % 256].map toString).toList

/-! ## IPv6 -/

/-- Up to four hexadecimal digits off the front. -/
def hexPiece : Nat → Nat → List Char → Nat × Nat × List Char
  | 0, value, cs => (value, 0, cs)
  | _ + 1, value, [] => (value, 0, [])
  | n + 1, value, c :: cs =>
    match Text.hexDigit? c with
    | some d =>
      let (v, count, rest) := hexPiece n (value * 16 + d) cs
      (v, count + 1, rest)
    | none => (value, 0, c :: cs)

/-- A decimal byte without superfluous zeros off the front. -/
def decimalByte? (cs : List Char) : Option (Nat × List Char) :=
  let ds := cs.takeWhile isAsciiDigit
  match ds with
  | [] => none
  | '0' :: _ :: _ => none
  | _ => do
    let n ← Text.numberInBase? 10 ds
    if n ≤ 255 then some (n, cs.dropWhile isAsciiDigit) else none

/-- The two pieces that an IPv4 address at the end of an IPv6 address stands for. -/
def embeddedIpv4? (cs : List Char) : Option (List Nat) := do
  let (a, cs) ← decimalByte? cs
  let (b, cs) ← decimalByte? (← afterDot? cs)
  let (c, cs) ← decimalByte? (← afterDot? cs)
  let (d, cs) ← decimalByte? (← afterDot? cs)
  if cs.isEmpty then some [a * 256 + b, c * 256 + d] else none
where
  afterDot? : List Char → Option (List Char)
    | '.' :: cs => some cs
    | _ => none

/-- How many places are taken; a double colon takes at least one. -/
def placesTaken (pieces : List Nat) (gap : Option Nat) : Nat :=
  pieces.length + (if gap.isSome then 1 else 0)

/-- Reads pieces; `gap` is the number of pieces before the double colon, once it was read. -/
def ipv6Pieces? : Nat → List Char → List Nat → Option Nat → Option (List Nat × Option Nat)
  | 0, _, _, _ => none
  | _ + 1, [], pieces, gap => some (pieces, gap)
  | fuel + 1, ':' :: cs, pieces, gap =>
    if gap.isSome ∨ placesTaken pieces gap = 8 then none
    else ipv6Pieces? fuel cs pieces (some pieces.length)
  | fuel + 1, cs, pieces, gap =>
    if placesTaken pieces gap = 8 then none
    else
      let (value, count, rest) := hexPiece 4 0 cs
      match rest with
      | '.' :: _ =>
        if count = 0 ∨ 6 < placesTaken pieces gap then none
        else (embeddedIpv4? cs).map fun two => (pieces ++ two, gap)
      | ':' :: next =>
        if next.isEmpty then none
        else ipv6Pieces? fuel next (pieces ++ [value]) gap
      | [] => some (pieces ++ [value], gap)
      | _ => none

def ipv6Address? (cs : List Char) : Option (List Nat) := do
  let start ← match cs with
    | ':' :: ':' :: rest => some (rest, some 0)
    | ':' :: _ => none
    | _ => some (cs, none)
  let (pieces, gap) ← ipv6Pieces? (cs.length + 1) start.1 [] start.2
  match gap with
  | some n => some (pieces.take n ++ List.replicate (8 - pieces.length) 0 ++ pieces.drop n)
  | none => if pieces.length = 8 then some pieces else none

/-- The runs of zeros with their starts and lengths. -/
def zeroRuns : Nat → List Nat → List (Nat × Nat)
  | _, [] => []
  | i, p :: ps =>
    match zeroRuns (i + 1) ps with
    | (start, length) :: more =>
      if p = 0 then
        if start = i + 1 then (i, length + 1) :: more else (i, 1) :: (start, length) :: more
      else (start, length) :: more
    | [] => if p = 0 then [(i, 1)] else []

/-- The longest run of at least two zeros, the first of equally long ones. -/
def longestRun (pieces : List Nat) : Option (Nat × Nat) :=
  (zeroRuns 0 pieces).foldl (fun best run =>
    match best with
    | none => if 2 ≤ run.2 then some run else none
    | some b => if b.2 < run.2 then some run else some b) none

def renderPieces (pieces : List Nat) : String :=
  String.intercalate ":" (pieces.map fun p => String.ofList (Nat.toDigits 16 p))

def renderIpv6 (pieces : List Nat) : List Char :=
  let body := match longestRun pieces with
    | none => renderPieces pieces
    | some (start, length) =>
      renderPieces (pieces.take start) ++ "::" ++ renderPieces (pieces.drop (start + length))
  ("[" ++ body ++ "]").toList

/-! ## Hosts -/

/-- What stands between brackets, as an address. -/
def bracketed? (cs : List Char) : Option (List Char) :=
  if cs.getLast? = some ']' then (ipv6Address? cs.dropLast).map renderIpv6 else none

/-- The host of a special URL. -/
def specialHost? : List Char → Option (List Char)
  | '[' :: cs => bracketed? cs
  | cs => do
    let domain ← domain? cs
    if domain.isEmpty then none
    else if endsInNumber domain then (ipv4Address? domain).map renderIpv4
    else some domain

def isForbiddenInHost (c : Char) : Bool :=
  "\x00\t\n\r #/:<>?@[\\]^|".toList.contains c

/-- The host of a URL that is not special. -/
def opaqueHost? : List Char → Option (List Char)
  | '[' :: cs => bracketed? cs
  | cs => if cs.any isForbiddenInHost then none else some (percentEncode controlSet cs)

end JsonTypes.Url
