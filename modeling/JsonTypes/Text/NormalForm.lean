import JsonTypes.Text.Composites
import JsonTypes.Text.Marks

/-!
# The normal form of a text

A text is taken apart into letters and marks, the marks that may change places are put in the order
of their classes, and what has a composite is put together. Texts that differ only in how their
characters are put together come to the same normal form.
-/

namespace JsonTypes.Text

/-- Puts a mark in front of a text whose marks are in order. -/
def placeMark (c : Char) : List Char → List Char
  | [] => [c]
  | d :: ds =>
    if 0 < combiningClass d ∧ combiningClass d < combiningClass c then d :: placeMark c ds
    else c :: d :: ds

def orderMarks (cs : List Char) : List Char := cs.foldr placeMark []

/-- Composes the rest of a text with the last letter, which has marks after it that are kept. -/
def composeWith (letter : Char) (marks : List Char) : List Char → List Char
  | [] => letter :: marks
  | c :: cs =>
    -- A mark of the same class, which is nearer to the letter, keeps the two apart.
    let isNear := marks.all (combiningClass · < combiningClass c)
    match if isNear then composite? letter c else none with
    | some whole => composeWith whole marks cs
    | none =>
      if combiningClass c = 0 then letter :: marks ++ composeWith c [] cs
      else composeWith letter (marks ++ [c]) cs

/-- Composes a text, whose first letter may have marks before it. -/
def compose : List Char → List Char
  | [] => []
  | c :: cs => if combiningClass c = 0 then composeWith c [] cs else c :: compose cs

/-- The normal form. A text is in it if it has only characters that come before the first mark. -/
def normalForm (cs : List Char) : List Char :=
  if cs.all (·.toNat < 0x300) then cs else compose (orderMarks (cs.flatMap decompose))

end JsonTypes.Text
