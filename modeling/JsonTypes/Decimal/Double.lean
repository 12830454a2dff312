/-!
# Binary64 numbers

A finite double is a sign and the rank of its absolute value among the non-negative doubles in
increasing order. The rank is also what the number's bit pattern reads as without the sign bit: a
rank below `2 ^ 52` stands for that many units of `2 ^ (-1074)`, and every further block of
`2 ^ 52` ranks doubles the unit.

Numbers are taken to the nearest double in exact integer arithmetic, a half going to the even
neighbour.
-/

namespace JsonTypes

/-- The natural number nearest to `num / den`; halfway between two, the even one. -/
def roundDiv (num den : Nat) : Nat :=
  let q := num / den
  let r := num % den
  if 2 * r < den then q
  else if den < 2 * r then q + 1
  else if q % 2 = 0 then q
  else q + 1

/-- The quotient `num / den` times `base ^ e`. -/
def scale (base : Nat) (e : Int) (num den : Nat) : Nat × Nat :=
  (num * Nat.pow base e.toNat, den * Nat.pow base (-e).toNat)

structure Double where
  negative : Bool
  rank : Nat
deriving DecidableEq, Repr

namespace Double

/-- How many ranks have one unit: `2 ^ 52`. -/
def blockSize : Nat := Nat.pow 2 52

/-- The rank that infinity would have. -/
def rankLimit : Nat := 2047 * blockSize

/-- `(m, q)` such that the number of this rank is `m * 2 ^ q`. -/
def parts (rank : Nat) : Nat × Int :=
  if rank < blockSize then (rank, -1074)
  else (blockSize + rank % blockSize, (rank / blockSize : Nat) - 1075)

/-- The number of this rank as a quotient of natural numbers. -/
def quotient (rank : Nat) : Nat × Nat :=
  let (m, q) := parts rank
  scale 2 q m 1

/-- The largest `e` such that `2 ^ e` is at most `num / den`. -/
def log2Quotient (num den : Nat) : Int :=
  let e : Int := (num.log2 : Int) - den.log2
  let (low, high) := scale 2 e den num
  if low ≤ high then e else e - 1

/-- The rank of the double nearest to `num / den`; at `rankLimit` the quotient is too large. -/
def nearestRank (num den : Nat) : Nat :=
  if num = 0 then 0
  else
    let q := max (log2Quotient num den - 52) (-1074)
    let (den, num) := scale 2 q den num
    (q + 1074).toNat * blockSize + roundDiv num den

def nearest? (num den : Nat) : Option Nat :=
  let rank := nearestRank num den
  if rank < rankLimit then some rank else none

def mul? (a b : Nat) : Option Nat :=
  let (n, d) := quotient a
  let (n', d') := quotient b
  nearest? (n * n') (d * d')

def div? (a b : Nat) : Option Nat :=
  let (n, d) := quotient a
  let (n', d') := quotient b
  nearest? (n * d') (d * n')

def ofNatRank (n : Nat) : Nat := nearestRank n 1

/-! ## Square roots -/

/-- The largest number whose square is at most `n`, for an `n` below `4 ^ digits`. -/
def floorSqrt : Nat → Nat → Nat
  | 0, _ => 0
  | digits + 1, n =>
    let root := 2 * floorSqrt digits (n / 4)
    if (root + 1) * (root + 1) ≤ n then root + 1 else root

/-- The natural number nearest to the square root of `num / den`; halfway between two, the even
one. -/
def roundSqrt (num den : Nat) : Nat :=
  let root := floorSqrt ((num / den).log2 / 2 + 1) (num / den)
  let middle := (2 * root + 1) * (2 * root + 1) * den
  if 4 * num < middle then root
  else if middle < 4 * num then root + 1
  else if root % 2 = 0 then root
  else root + 1

/-- The rank of the double nearest to the square root of the one of this rank. -/
def sqrtRank (rank : Nat) : Nat :=
  if rank = 0 then 0
  else
    let (num, den) := quotient rank
    let q := log2Quotient num den / 2 - 52
    let (den, num) := scale 2 (2 * q) den num
    (q + 1074).toNat * blockSize + roundSqrt num den

end Double

end JsonTypes
