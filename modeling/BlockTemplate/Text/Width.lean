import BlockTemplate.Text.CaseTable
import BlockTemplate.Text.WidthTable
/-!
# Column widths

How many columns a character takes when a text is laid out in columns of equal width.
-/

namespace BlockTemplate.Text

/-- The Khmer sign that stands for "and so on". It is drawn as the three characters that it
abbreviates. -/
def etCetera : Char := '\u17d8'

/-- The number of columns of a character, a tab apart. -/
def width (c : Char) : Nat :=
  let n := c.toNat
  if 32 ≤ n && n < 127 then 1
  else if c = etCetera then 3
  else if inRanges zeroWidthRanges n then 0
  else if inRanges wideRanges n then 2
  else 1

end BlockTemplate.Text
