/-
# Blanks

The characters that separate words, and what is left of a text without the ones around it.
-/

namespace Radius.Text

/-- Whether a character separates words: the Unicode property White_Space. -/
def isBlank (c : Char) : Bool :=
  let point := c.toNat
  (decide (0x09 ≤ point) && decide (point ≤ 0x0D)) || point == 0x20 || point == 0x85
    || point == 0xA0 || point == 0x1680 || (decide (0x2000 ≤ point) && decide (point ≤ 0x200A))
    || point == 0x2028 || point == 0x2029 || point == 0x202F || point == 0x205F || point == 0x3000

/-- The text without the blanks at its two ends. -/
def trim (text : List Char) : List Char :=
  ((text.dropWhile isBlank).reverse.dropWhile isBlank).reverse

/-- The words of a text: its longest runs without a blank, in order. -/
def words (text : List Char) : List (List Char) :=
  (text.splitOnP isBlank).filter (!·.isEmpty)

end Radius.Text
