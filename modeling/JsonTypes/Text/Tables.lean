/-!
# Tables of characters

A property of characters is given by a table: of ranges of code points, of rows that have a value
for each range, or of blocks, which have a text for each code point from the first one on. The
tables are those of Unicode 17.
-/

namespace JsonTypes.Text

/-- Whether a character is in one of the ranges, which have their first and last code points. -/
def inRanges (ranges : List (Nat × Nat)) (c : Char) : Bool :=
  ranges.any fun range => range.1 ≤ c.toNat && c.toNat ≤ range.2

/-- The row of the range that a character is in. -/
def row? (rows : List (Nat × Nat × Nat)) (c : Char) : Option (Nat × Nat × Nat) :=
  rows.find? fun row => row.1 ≤ c.toNat && c.toNat ≤ row.2.1

/-- What the blocks have for a character. -/
def textOf? (blocks : List (Nat × List (List Nat))) (c : Char) : Option (List Char) :=
  (blocks.findSome? fun block =>
    if block.1 ≤ c.toNat then block.2[c.toNat - block.1]? else none).map (·.map Char.ofNat)

end JsonTypes.Text
