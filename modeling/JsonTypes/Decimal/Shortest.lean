import JsonTypes.Decimal.Double

/-!
# The shortest decimal of a double

Among the decimals that the double is nearest to, those with the fewest digits, and of these the
one closest to its exact value (of two equally close the even one). A decimal grid has a point
that rounds to the double only if one of the two grid points around the exact value does, so two
candidates for each number of digits are enough.

The text is positional from `10 ^ (-5)` up to below `10 ^ 16` and scientific elsewhere.
-/

namespace JsonTypes.Double

def digitCount (n : Nat) : Nat := if n = 0 then 0 else (Nat.toDigits 10 n).length

/-- The largest `k` such that `10 ^ k` is at most `num / den`. -/
def log10Quotient (num den : Nat) : Int :=
  if den ≤ num then (digitCount (num / den) : Int) - 1
  else -(digitCount ((den - 1) / num) : Int)

/-- A decimal `digits * 10 ^ exponent`. -/
structure Decimal where
  digits : Nat
  exponent : Int
deriving DecidableEq, Repr

/-- Whether the double `m * 2 ^ q` is nearest to `num / den`: it is at most half a step away, and
less than that where `m` is odd. The step below a power of two is half as long. -/
def roundsTo (m : Nat) (q : Int) (num den : Nat) : Bool :=
  let low := if m = blockSize ∧ -1074 < q then 4 * m - 1 else 4 * m - 2
  let high := 4 * m + 2
  let (unit, scaled) := scale 2 q den (4 * num)
  if m % 2 = 0 then low * unit ≤ scaled && scaled ≤ high * unit
  else low * unit < scaled && scaled < high * unit

/-- The better of the two points around `m * 2 ^ q` on the grid of the multiples of `10 ^ k`. -/
def onGrid (m : Nat) (q k : Int) : Option Nat :=
  let (num, den) := scale 2 q m 1
  let (den, num) := scale 10 k den num
  let d := num / den
  let fits (c : Nat) : Bool :=
    let (num, den) := scale 10 k c 1
    roundsTo m q num den
  match fits d, fits (d + 1) with
  | false, false => none
  | true, false => some d
  | false, true => some (d + 1)
  | true, true => some (roundDiv num den)

def dropZeros : Nat → Decimal → Decimal
  | 0, d => d
  | fuel + 1, d =>
    if d.digits % 10 = 0 then dropZeros fuel ⟨d.digits / 10, d.exponent + 1⟩ else d

/-- Tries `count` grids, each ten times finer than the one before. -/
def firstGrid (m : Nat) (q : Int) : Nat → Int → Option Decimal
  | 0, _ => none
  | count + 1, k =>
    match onGrid m q k with
    | some d => some (dropZeros 1 ⟨d, k⟩)
    | none => firstGrid m q count (k - 1)

def shortest (rank : Nat) : Decimal :=
  if rank = 0 then ⟨0, 0⟩
  else
    let (m, q) := parts rank
    let (num, den) := quotient rank
    (firstGrid m q 17 (log10Quotient num den)).getD ⟨m, q⟩

def zeros (n : Nat) : String := String.ofList (List.replicate n '0')

/-- A number always shows a point or an exponent. -/
def render (x : Double) : String :=
  let d := shortest x.rank
  let text := toString d.digits
  let length := text.length
  let lead := (length : Int) + d.exponent - 1
  let body :=
    if x.rank = 0 then "0.0"
    else if 0 ≤ d.exponent ∧ lead ≤ 15 then
      text ++ zeros d.exponent.toNat ++ ".0"
    else if 0 ≤ lead ∧ lead ≤ 15 then
      let whole := (lead + 1).toNat
      String.ofList (text.toList.take whole) ++ "." ++ String.ofList (text.toList.drop whole)
    else if -5 ≤ lead ∧ lead < 0 then
      "0." ++ zeros (-lead - 1).toNat ++ text
    else
      let mantissa :=
        if length = 1 then text
        else String.ofList (text.toList.take 1) ++ "." ++ String.ofList (text.toList.drop 1)
      let exponent := if lead < 0 then toString lead else "+" ++ toString lead
      mantissa ++ "e" ++ exponent
  if x.negative then "-" ++ body else body

end JsonTypes.Double
