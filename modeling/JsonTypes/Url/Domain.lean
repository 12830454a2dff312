import JsonTypes.Text.NormalForm
import JsonTypes.Text.Split
import JsonTypes.Url.Direction
import JsonTypes.Url.Mapping
import JsonTypes.Url.Percent
import JsonTypes.Url.Punycode

/-!
# Domains

A domain is percent-decoded, its characters are mapped, and the text is brought into its normal
form. Then each of its labels is checked as it is shown, where a label in Punycode shows what it
stands for. In the end a label that is not ASCII is written in Punycode.

What is asked of a label is what Unicode 17 asks of those of domains. Hyphens may be anywhere in it,
and a domain may be of any length.
-/

namespace JsonTypes.Url

/-- Characters that show nothing, and those that end a domain or are kept for other uses. -/
def isForbiddenInDomain (c : Char) : Bool :=
  c.toNat ≤ 0x20 || c.toNat = 0x7F || "#%/:<>?@[\\]^|".toList.contains c

/-- A text as it is read in a domain, if all of its characters may be there. -/
def folded? (cs : List Char) : Option (List Char) := do
  some (Text.normalForm (← cs.mapM mapped?).flatten)

def punycodeMark : List Char := "xn--".toList

/-- The longest text that is read from Punycode. -/
def punycodeLimit : Nat := 2000

/-- The longest label that is written in Punycode. -/
def labelLimit : Nat := 1000

/-- What a label shows. What one in Punycode stands for must not be ASCII, nor claim to be in
Punycode again, and it is read as it stands. -/
def shown? (label : List Char) : Option (List Char) :=
  if punycodeMark.isPrefixOf label then do
    let code := label.drop 4
    if punycodeLimit < code.length ∨ ¬code.all Punycode.isBasic then none
    else
      let shown ← Punycode.decode? code
      if shown.all Punycode.isBasic ∨ punycodeMark.isPrefixOf shown ∨ folded? shown ≠ some shown
      then none
      else some shown
  else some label

/-- What is asked of a label as it is shown, whatever the others are. -/
def isLabel (shown : List Char) : Bool :=
  !shown.head?.any Text.isMark && joinersFit [] shown &&
    (shown.all Punycode.isBasic || shown.length ≤ labelLimit)

def asciiLabel (label : List Char) : List Char :=
  if label.all Punycode.isBasic then label else punycodeMark ++ Punycode.encode label

/-- The ASCII form of a domain, if it is one. -/
def domain? (cs : List Char) : Option (List Char) := do
  let text ← Text.utf8Text? (percentDecode cs)
  let folded ← folded? text.toList
  if folded.any isForbiddenInDomain then none
  else
    let labels := Text.splitOn '.' folded
    let shown ← labels.mapM shown?
    if shown.all isLabel ∧ (shown.any (·.any turnsDirection) → shown.all keepsDirection) then
      some (['.'].intercalate (labels.map asciiLabel))
    else none

end JsonTypes.Url
