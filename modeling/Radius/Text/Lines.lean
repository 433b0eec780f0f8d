/-
# Lines

A text read line by line. A line ends at a line feed; what follows the last line feed is a line of
its own unless it is empty. A carriage return before the line feed stays in the line, where it is a
blank like any other.
-/

namespace Radius.Text

/-- The lines of a text, without their line feeds. -/
def lines (text : List Char) : List (List Char) :=
  let pieces := text.splitOn '\n'
  if pieces.getLast? = some [] then pieces.dropLast else pieces

/-- A line up to its comment, which starts at the first `#`. -/
def withoutComment (line : List Char) : List Char :=
  line.takeWhile (· != '#')

theorem lines_nil : lines [] = [] := by
  decide

end Radius.Text
