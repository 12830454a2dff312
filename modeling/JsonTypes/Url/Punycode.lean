/-!
# Punycode

A label that is not ASCII is written in ASCII: its ASCII characters, a hyphen, and then, in
increasing order of code points, where the other characters go, as differences in a number system
whose digits adapt to what was written before.
-/

namespace JsonTypes.Url.Punycode

def digitChar (d : Nat) : Char :=
  if d < 26 then Char.ofNat ('a'.toNat + d) else Char.ofNat ('0'.toNat + (d - 26))

def digitValue? (c : Char) : Option Nat :=
  if 'a' ≤ c ∧ c ≤ 'z' then some (c.toNat - 'a'.toNat)
  else if '0' ≤ c ∧ c ≤ '9' then some (c.toNat - '0'.toNat + 26)
  else none

def threshold (k bias : Nat) : Nat :=
  if k ≤ bias then 1 else if bias + 26 ≤ k then 26 else k - bias

theorem one_le_threshold (k bias : Nat) : 1 ≤ threshold k bias := by
  unfold threshold
  split
  · omega
  · split <;> omega

def adaptLoop (delta k : Nat) : Nat :=
  if 455 < delta then adaptLoop (delta / 35) (k + 36) else k + 36 * delta / (delta + 38)
termination_by delta
decreasing_by exact Nat.div_lt_self (by omega) (by omega)

/-- How the digits adapt to a difference that was just written. -/
def adapt (delta count : Nat) (isFirst : Bool) : Nat :=
  let d := if isFirst then delta / 700 else delta / 2
  adaptLoop (d + d / count) 0

def digits (bias k q : Nat) : List Char :=
  let t := threshold k bias
  if q < t then [digitChar q]
  else digitChar (t + (q - t) % (36 - t)) :: digits bias (k + 36) ((q - t) / (36 - t))
termination_by q
decreasing_by
  have := one_le_threshold k bias
  have := Nat.div_le_self (q - threshold k bias) (36 - threshold k bias)
  omega

structure Writer where
  out : List Char
  delta : Nat
  bias : Nat
  count : Nat

/-- Passes one character while those of code point `n` are written. -/
def Writer.pass (basic n : Nat) (w : Writer) (c : Char) : Writer :=
  if c.toNat < n then { w with delta := w.delta + 1 }
  else if c.toNat = n then
    { out := w.out ++ digits w.bias 36 w.delta
      delta := 0
      bias := adapt w.delta (w.count + 1) (w.count = basic)
      count := w.count + 1 }
  else w

/-- Writes the code points of a list, which are at least `n`, in turn. -/
def writeAll (input : List Char) (basic : Nat) : List Nat → Nat → Writer → Writer
  | [], _, w => w
  | m :: rest, n, w =>
    let w := { w with delta := w.delta + (m - n) * (w.count + 1) }
    let w := input.foldl (Writer.pass basic m) w
    writeAll input basic rest (m + 1) { w with delta := w.delta + 1 }

def isBasic (c : Char) : Bool := c.toNat < 0x80

def insertOnce (x : Nat) : List Nat → List Nat
  | [] => [x]
  | y :: ys => if x < y then x :: y :: ys else if x = y then y :: ys else y :: insertOnce x ys

def encode (input : List Char) : List Char :=
  let basic := input.filter isBasic
  let others := (input.filter (!isBasic ·)).foldl (fun ns c => insertOnce c.toNat ns) []
  let start := if basic.isEmpty then [] else basic ++ ['-']
  (writeAll input basic.length others 0x80 ⟨start, 0, 72, basic.length⟩).out

/-- One difference, and the digits after it. The weights of digits have 32 bits. -/
def difference? (bias : Nat) : List Char → Nat → Nat → Nat → Option (Nat × List Char)
  | [], _, _, _ => none
  | c :: cs, k, weight, sum =>
    match digitValue? c with
    | none => none
    | some d =>
      let t := threshold k bias
      let sum := sum + d * weight
      if d < t then some (sum, cs)
      else if weight * (36 - t) < 0x100000000 then
        difference? bias cs (k + 36) (weight * (36 - t)) sum
      else none

/-- Puts characters where the differences say. -/
def readAll : Nat → List Char → List Char → Nat → Nat → Nat → Option (List Char)
  | _, [], out, _, _, _ => some out
  | 0, _, _, _, _, _ => none
  | fuel + 1, cs, out, n, i, bias =>
    match difference? bias cs 36 1 0 with
    | none => none
    | some (delta, rest) =>
      let size := out.length + 1
      let place := i + delta
      let code := n + place / size
      let at_ := place % size
      if 0x10FFFF < code ∨ (0xD800 ≤ code ∧ code ≤ 0xDFFF) then none
      else
        readAll fuel rest (out.take at_ ++ Char.ofNat code :: out.drop at_) code (at_ + 1)
          (adapt delta size (i = 0 && n = 0x80))

/-- Reads a label, without the mark in front that says how it is written. A hyphen separates the
ASCII characters only if there are some. -/
def decode? (input : List Char) : Option (List Char) :=
  let tail := (input.reverse.takeWhile (· ≠ '-')).reverse
  let basic := input.take (input.length - tail.length - 1)
  readAll (input.length + 1) (if basic.isEmpty then input else tail) basic 0x80 0 72

end JsonTypes.Url.Punycode
