import JsonTypes.Text.Digit
import JsonTypes.Text.Utf8

/-!
# Percent encoding

A character outside the allowed set stands as its UTF-8 bytes, each written as a percent sign and
two upper-case hexadecimal digits. Which characters are encoded depends on the part of the URL;
characters that are not ASCII always are. Decoding works on bytes, and leaves a percent sign alone
that no two hexadecimal digits follow.
-/

namespace JsonTypes.Url

/-- Encoded everywhere: control characters, and all that is not ASCII. -/
def controlSet (c : Char) : Bool := c.toNat < 0x20 || 0x7F ≤ c.toNat

def querySet (c : Char) : Bool :=
  controlSet c || c = ' ' || c = '"' || c = '#' || c = '<' || c = '>'

def specialQuerySet (c : Char) : Bool := querySet c || c = '\''

def pathSet (c : Char) : Bool :=
  querySet c || c = '\x60' || c = '?' || c = '\x7b' || c = '\x7d'

def userinfoSet (c : Char) : Bool :=
  pathSet c || c = '/' || c = ':' || c = ';' || c = '=' || c = '@' || c = '[' || c = '\\' ||
    c = ']' || c = '^' || c = '|'

def upperHexDigit (n : Nat) : Char :=
  if n < 10 then Char.ofNat ('0'.toNat + n) else Char.ofNat ('A'.toNat + (n - 10))

def encodeByte (b : UInt8) : List Char :=
  ['%', upperHexDigit (b.toNat / 16), upperHexDigit (b.toNat % 16)]

def percentEncode (set : Char → Bool) : List Char → List Char
  | [] => []
  | c :: cs =>
    (if set c then (Text.utf8Bytes c).flatMap encodeByte else [c]) ++ percentEncode set cs

/-- The bytes that a text stands for. -/
def percentDecode : List Char → List UInt8
  | '%' :: a :: b :: cs =>
    match Text.hexByte? a b with
    | some byte => byte :: percentDecode cs
    | none => 0x25 :: percentDecode (a :: b :: cs)
  | c :: cs => Text.utf8Bytes c ++ percentDecode cs
  | [] => []

end JsonTypes.Url
