import SearchFilter.Text.Width.Tables

/-!
# The width of a character

How many columns a character takes on its own, where every column has the same size: none for a
character that only modifies another one, two for a wide one, and one for every other, control
characters included.
-/

namespace SearchFilter.Text

/-- Whether a character takes no column of its own. -/
def isZeroWidth (c : Char) : Bool :=
  zeroWidthRanges.mem c.toNat

/-- Whether a character is one of the control characters and of the Latin characters up to the
no-break space, of which each takes one column wherever it stands. -/
def isNarrow (c : Char) : Bool :=
  c.toNat ≤ 0xA0

/-- The columns of a character on its own.  A Khmer sign, an abbreviation, takes three. -/
def charWidth (c : Char) : Nat :=
  if isNarrow c then 1
  else if c = '\u17d8' then 3
  else if isZeroWidth c then 0
  else if wideRanges.mem c.toNat then 2
  else 1

end SearchFilter.Text
