import JsonTypes.Decimal.Double
import JsonTypes.Json.Basic
import JsonTypes.Yaml.Tag

/-!
# Values of scalars

A plain scalar may be null, a truth value or a number; any other scalar, and a plain one that is
none of these, is a string. Digits behind a leading zero are a string. An integer must fit 64 bits,
signed or unsigned: one that needs up to 128 bits is refused, and a longer decimal one is a double.
-/

namespace JsonTypes.Yaml

def isNull (s : String) : Bool := s = "null" || s = "Null" || s = "NULL" || s = "~"

def bool? (s : String) : Option Bool :=
  if s = "true" ∨ s = "True" ∨ s = "TRUE" then some true
  else if s = "false" ∨ s = "False" ∨ s = "FALSE" then some false
  else none

/-! ## Numbers -/

/-- Digits, at least one. -/
def naturalInBase? (base : Nat) (cs : List Char) : Option Nat :=
  if cs.isEmpty then none else Text.numberInBase? base cs

/-- A text without the sign in front of it. -/
def dropSign : List Char → List Char
  | '+' :: cs => cs
  | '-' :: cs => cs
  | cs => cs

/-- Digits that are no number, as there is a needless zero in front. -/
def hasNeedlessZero (cs : List Char) : Bool :=
  match dropSign cs with
  | '0' :: c :: cs => (c :: cs).all Char.isDigit
  | _ => false

/-- The bases that a number can name, with what it starts with then. -/
def bases : List (List Char × Nat) := [(['0', 'x'], 16), (['0', 'o'], 8), (['0', 'b'], 2)]

/-- Digits behind the name of their base, where the number stays below a limit. -/
def based? (limit : Nat) (cs : List Char) : Option Nat :=
  bases.findSome? fun (start, base) =>
    if start.isPrefixOf cs then
      (naturalInBase? base (cs.drop start.length)).filter (· < limit)
    else none

def decimal? (limit : Nat) (cs : List Char) : Option Nat :=
  if hasNeedlessZero cs then none else (naturalInBase? 10 cs).filter (· < limit)

/-- A number without a minus sign, below a limit. -/
def natural? (limit : Nat) (cs : List Char) : Option Nat :=
  let digits := match cs with
    | '+' :: cs => cs
    | cs => cs
  (based? limit digits).orElse fun _ => decimal? limit digits

/-- The absolute value of a number with a minus sign, up to a limit. -/
def negative? (limit : Nat) : List Char → Option Nat
  | '-' :: digits =>
    (based? (limit + 1) digits).orElse fun _ => decimal? (limit + 1) digits
  | _ => none

inductive Integer where
  | fits (n : Int)
  /-- More than 64 bits, but not more than 128. -/
  | tooLarge

def integer? (cs : List Char) : Option Integer :=
  match natural? UInt64.size cs, negative? (UInt64.size / 2) cs with
  | some n, _ => some (.fits n)
  | none, some n => some (.fits (-(n : Int)))
  | none, none =>
    let limit := UInt64.size * UInt64.size
    if (natural? limit cs).isSome ∨ (negative? (limit / 2) cs).isSome then some .tooLarge
    else none

/-- Digits with a point among them, as a number and a count of the digits behind the point. -/
def mantissa? (cs : List Char) : Option (Nat × Nat) :=
  let whole := cs.takeWhile Char.isDigit
  let fraction := match cs.dropWhile Char.isDigit with
    | [] => some []
    | '.' :: ds => some ds
    | _ => none
  match fraction with
  | some ds => (naturalInBase? 10 (whole ++ ds)).map fun n => (n, ds.length)
  | none => none

def exponent? : List Char → Option Int
  | '-' :: ds => (naturalInBase? 10 ds).map fun n => -(n : Int)
  | '+' :: ds => (naturalInBase? 10 ds).map fun n => (n : Int)
  | ds => (naturalInBase? 10 ds).map fun n => (n : Int)

/-- The rank of the double nearest to `n * 10 ^ e`, unless it is too large. A power far out of the
range of doubles is not computed. -/
def scaled? (n : Nat) (e : Int) : Option Nat :=
  let size : Int := (n.log2 : Int) / 3 + e
  if n = 0 ∨ size < -400 then some 0
  else if 400 < e then none
  else
    let (num, den) := scale 10 e n 1
    Double.nearest? num den

def isExponentLetter (c : Char) : Bool := c = 'e' || c = 'E'

/-- A number with digits, a point and an exponent, of which the last two may be missing. -/
def unsignedDouble? (cs : List Char) : Option Nat := do
  let (n, places) ← mantissa? (cs.takeWhile (!isExponentLetter ·))
  let e ← match cs.dropWhile (!isExponentLetter ·) with
    | [] => some 0
    | _ :: ds => exponent? ds
  scaled? n (e - places)

def finiteDouble? : List Char → Option Double
  | '+' :: cs => (unsignedDouble? cs).map fun rank => ⟨false, rank⟩
  | '-' :: cs => (unsignedDouble? cs).map fun rank => ⟨true, rank⟩
  | cs => (unsignedDouble? cs).map fun rank => ⟨false, rank⟩

/-- The texts that stand for an infinity, or for no number. -/
def isNotFinite (s : String) : Bool :=
  [".inf", ".Inf", ".INF", "+.inf", "+.Inf", "+.INF", "-.inf", "-.Inf", "-.INF", ".nan", ".NaN",
    ".NAN"].contains s

/-- A double; what is not finite is null in JSON. -/
def double? (s : String) : Option Json :=
  if isNotFinite s then some .null
  else (finiteDouble? s.toList).map fun x => .number (.double x)

/-! ## Scalars -/

/-- An integer, where it is not too large for JSON. -/
def Integer.json? : Integer → Option Json
  | fits n => some (.int n)
  | tooLarge => none

/-- The value of a plain scalar without a tag. -/
def plainValue? (s : String) : Option Json :=
  if s.isEmpty ∨ isNull s then some .null
  else
    match bool? s, integer? s.toList with
    | some b, _ => some (.bool b)
    | none, some n => n.json?
    | none, none =>
      if hasNeedlessZero s.toList then some (.string s) else some ((double? s).getD (.string s))

def isLocal (tag : List UInt8) : Bool := tag.head? = some 0x21

/-- The value of a scalar with a tag. A tag of the document's own that is text is refused. -/
def taggedValue? (tag : List UInt8) (s : String) (plain : Bool) : Option Json :=
  if isLocal tag then
    if (Text.utf8Text? tag).isSome then none
    else if plain then plainValue? s
    else some (.string s)
  else if tag = Tag.standard "bool" then (bool? s).map .bool
  else if tag = Tag.standard "int" then (integer? s.toList).bind Integer.json?
  else if tag = Tag.standard "float" then double? s
  else if tag = Tag.standard "null" then if isNull s then some .null else none
  else some (.string s)

def scalarValue? (tag : Option (List UInt8)) (s : String) (plain : Bool) : Option Json :=
  match tag with
  | some t => taggedValue? t s plain
  | none => if plain then plainValue? s else some (.string s)

end JsonTypes.Yaml
