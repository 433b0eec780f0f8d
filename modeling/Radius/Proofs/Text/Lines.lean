/-
# Lines of joined texts

A line feed between two texts keeps their lines apart: the lines of the whole are those of the first
text with its line feed, and then those of the second (`lines_append_newline`).  The line feed adds
at most an empty line to the first text (`lines_newline`).  The lines up to a given one make a text
of their own (`lines_firstLines_newline`).
-/
import Radius.Proofs.Text.Blank
import Radius.Text.Lines

namespace Radius.Text

/-- A text is cut at a line feed into the pieces of what is before and of what is after it. -/
lemma splitOn_append_newline (a b : List Char) :
    (a ++ '\n' :: b).splitOn '\n' = a.splitOn '\n' ++ b.splitOn '\n' :=
  List.splitOnP_append_cons a b (beq_self_eq_true '\n')

lemma lines_append_splitOn (a b : List Char) :
    lines (a ++ '\n' :: b) = a.splitOn '\n' ++ lines b := by
  have hne : b.splitOn '\n' ≠ [] := List.splitOn_ne_nil '\n' b
  have hlast : (a.splitOn '\n' ++ b.splitOn '\n').getLast? = (b.splitOn '\n').getLast? := by
    rw [List.getLast?_append, List.getLast?_eq_some_getLast hne, Option.some_or]
  simp only [lines, splitOn_append_newline, hlast]
  split
  · rw [List.dropLast_append_of_ne_nil hne]
  · rfl

/-- Behind a line feed every piece is a line. -/
lemma lines_append_newline_nil (a : List Char) : lines (a ++ ['\n']) = a.splitOn '\n' := by
  rw [lines_append_splitOn, lines_nil, List.append_nil]

/-- The lines of two texts with a line feed between them. -/
lemma lines_append_newline (a b : List Char) :
    lines (a ++ '\n' :: b) = lines (a ++ ['\n']) ++ lines b := by
  rw [lines_append_splitOn, lines_append_newline_nil]

/-- A line feed at the end adds an empty line, or nothing. -/
lemma lines_newline (a : List Char) :
    lines (a ++ ['\n']) = lines a ∨ lines (a ++ ['\n']) = lines a ++ [[]] := by
  rw [lines_append_newline_nil]
  simp only [lines]
  split
  · rename_i hlast
    obtain ⟨before, hbefore⟩ := List.getLast?_eq_some_iff.1 hlast
    right
    rw [hbefore, List.dropLast_concat]
  · exact Or.inl rfl

/-! ### The first lines of a text -/

/-- The text of the first `n` lines, without the line feed after the last of them. -/
def firstLines (n : Nat) (text : List Char) : List Char :=
  ['\n'].intercalate ((text.splitOn '\n').take n)

lemma newline_not_mem_of_mem_splitOn {text line : List Char} (h : line ∈ text.splitOn '\n') :
    '\n' ∉ line := by
  intro hmem
  have hother := not_of_mem_splitOnP h '\n' hmem
  simp at hother

/-- The lines of a text are the pieces between its line feeds, up to an empty last one. -/
lemma take_lines {n : Nat} {text : List Char} (h : n ≤ (lines text).length) :
    (lines text).take n = (text.splitOn '\n').take n := by
  simp only [lines] at h ⊢
  split at h
  · rename_i hlast
    rw [if_pos hlast, List.dropLast_eq_take, List.take_take, Nat.min_eq_left]
    simpa using h
  · rename_i hlast
    rw [if_neg hlast]

/-- With a line feed behind them, the first lines of a text are lines again. -/
lemma lines_firstLines_newline {n : Nat} {text : List Char} (hpos : 0 < n)
    (h : n ≤ (lines text).length) :
    lines (firstLines n text ++ ['\n']) = (lines text).take n := by
  have hne : (text.splitOn '\n').take n ≠ [] := by
    have := List.splitOn_ne_nil '\n' text
    simp
    omega
  rw [lines_append_newline_nil, firstLines, List.splitOn_intercalate '\n' _ hne, take_lines h]
  intro line hline
  exact newline_not_mem_of_mem_splitOn (List.mem_of_mem_take hline)

end Radius.Text
