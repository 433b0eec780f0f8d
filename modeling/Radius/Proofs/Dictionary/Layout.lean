/-
# The layout of dictionary text

Loading sees the words of the lines of a text and the numbers of the lines.  All layouts of the same
lines are therefore loaded alike (`load_of_layout`), a last line without words included, which may
leave no trace in the text.  A line with an unsupported directive does to the loader what a line
without words does (`run_unsupported`), and all that is seen of it is its warning
(`skipped_unsupported`).
-/
import Radius.Proofs.Dictionary.Loading
import Radius.Proofs.Text.Layout

namespace Radius

open Text

/-! ### Numbered lines -/

namespace SourceLine

/-- Lines with the given words, numbered from `first` on. -/
def numbered (first : Nat) (lines : List (List String)) : List SourceLine :=
  (lines.zipIdx first).map fun (words, number) => ⟨number, words⟩

lemma numbered_append (first : Nat) (lines lines' : List (List String)) :
    numbered first (lines ++ lines') =
      numbered first lines ++ numbered (first + lines.length) lines' := by
  rw [numbered, List.zipIdx_append, List.map_append, ← numbered, ← numbered]

lemma numbered_cons (first : Nat) (words : List String) (lines : List (List String)) :
    numbered first (words :: lines) = ⟨first, words⟩ :: numbered (first + 1) lines := rfl

lemma number_of_mem_numbered {first : Nat} {lines : List (List String)} {line : SourceLine}
    (h : line ∈ numbered first lines) :
    first ≤ line.number ∧ line.number < first + lines.length := by
  obtain ⟨⟨words, number⟩, hmem, rfl⟩ := List.mem_map.1 h
  exact ⟨List.le_snd_of_mem_zipIdx hmem, List.snd_lt_add_of_mem_zipIdx hmem⟩

lemma ofText_eq_numbered (text : String) :
    ofText text = numbered 1 ((lines text.toList).map fun line =>
      (Text.words (withoutComment line)).map String.ofList) := by
  rw [ofText, numbered, List.zipIdx_map, List.map_map]
  rfl

/-- The lines that are read are those that were laid out, but a last line without words may be
missing. -/
lemma ofText_of_layout {lines : List (List String)} {text : String}
    (h : Layout lines text.toList) :
    ofText text = numbered 1 lines ∨
      ∃ number, ofText text ++ [⟨number, []⟩] = numbered 1 lines := by
  rw [ofText_eq_numbered]
  rcases h.words_lines with hlines | hlines
  · exact .inl (congrArg _ hlines)
  · exact .inr ⟨_, (numbered_append 1 _ [[]]).symm.trans (congrArg _ hlines)⟩

end SourceLine

/-! ### Warnings -/

namespace Loader

lemma skipped_append (s : Loader) (lines lines' : List SourceLine) :
    s.skipped (lines ++ lines') =
      s.skipped lines ++
        match s.run lines with
        | .ok t => t.skipped lines'
        | .error _ => [] := by
  induction lines generalizing s with
  | nil => rfl
  | cons line rest ih =>
      rw [List.cons_append, skipped, skipped, run]
      cases s.step line with
      | error e => rfl
      | ok t => simp only [ih t, List.append_assoc]

/-- A line without words at the end gives no warning. -/
lemma skipped_append_blank (s : Loader) (lines : List SourceLine) (number : Nat) :
    s.skipped (lines ++ [⟨number, []⟩]) = s.skipped lines := by
  rw [skipped_append]
  cases s.run lines <;> exact List.append_nil _

/-- A warning names the line that it comes from. -/
lemma exists_line_of_mem_skipped {s : Loader} {lines : List SourceLine} {w : Skipped}
    (h : w ∈ s.skipped lines) : ∃ line ∈ lines, line.number = w.line := by
  induction lines generalizing s with
  | nil => cases h
  | cons line rest ih =>
      rw [skipped] at h
      cases hstep : s.step line with
      | error e => simp [hstep] at h
      | ok t =>
          simp only [hstep, List.mem_append, Option.mem_toList] at h
          rcases h with h | h
          · refine ⟨line, List.mem_cons_self, ?_⟩
            unfold SourceLine.skipped? at h
            split at h
            · cases h
            · split at h
              · obtain rfl := Option.some.inj h
                rfl
              · cases h
          · obtain ⟨line', hmem, hnumber⟩ := ih h
            exact ⟨line', List.mem_cons_of_mem line hmem, hnumber⟩

/-- Among the warnings of some lines there is none of another line. -/
lemma filter_skipped_of_ne (s : Loader) {lines : List SourceLine} {number : Nat}
    (h : ∀ line ∈ lines, line.number ≠ number) :
    (s.skipped lines).filter (·.line ≠ number) = s.skipped lines ∧
      (s.skipped lines).filter (·.line = number) = [] := by
  have hline : ∀ w ∈ s.skipped lines, w.line ≠ number := by
    intro w hw
    obtain ⟨line, hmem, hnumber⟩ := exists_line_of_mem_skipped hw
    rw [← hnumber]
    exact h line hmem
  constructor
  · exact List.filter_eq_self.2 fun w hw => decide_eq_true (hline w hw)
  · exact List.filter_eq_nil_iff.2 fun w hw => by simpa using hline w hw

end Loader

/-! ### Layouts -/

namespace Dictionary

/-- All that loading takes from a text is the words of its lines. -/
lemma load_of_layout (d : Dictionary) {lines : List (List String)} {text : String}
    (h : Layout lines text.toList) :
    d.load text = Loader.run ⟨d, none⟩ (SourceLine.numbered 1 lines) >>= Loader.finish ∧
      d.skipped text = Loader.skipped ⟨d, none⟩ (SourceLine.numbered 1 lines) := by
  rcases SourceLine.ofText_of_layout h with hlines | ⟨number, hlines⟩
  · rw [← hlines]
    exact ⟨rfl, rfl⟩
  · rw [← hlines, Loader.run_append_blank, Loader.skipped_append_blank]
    exact ⟨rfl, rfl⟩

end Dictionary

/-! ### Unsupported directives -/

lemma Directive.ofWords_unsupported {keyword : String} (fields : List String)
    (h : keyword ∉ ["VENDOR", "BEGIN-VENDOR", "END-VENDOR", "ATTRIBUTE", "VALUE"]) :
    ofWords keyword fields = .ok (.unsupported keyword) := by
  simp only [List.mem_cons, List.not_mem_nil, or_false, not_or] at h
  obtain ⟨hvendor, hbegin, hend, hattribute, hvalue⟩ := h
  simp only [ofWords, if_neg hvendor, if_neg hbegin, if_neg hend, if_neg hattribute, if_neg hvalue]

namespace Loader

variable {keyword : String}
  (hkeyword : keyword ∉ ["VENDOR", "BEGIN-VENDOR", "END-VENDOR", "ATTRIBUTE", "VALUE"])
  (s : Loader) (fields : List String) (before after : List SourceLine) (number : Nat)
include hkeyword

lemma step_unsupported : s.step ⟨number, keyword :: fields⟩ = .ok s := by
  simp only [step, Directive.ofWords_unsupported fields hkeyword, apply]

/-- An unsupported directive changes as much as a line without words. -/
lemma run_unsupported :
    s.run (before ++ ⟨number, keyword :: fields⟩ :: after) =
      s.run (before ++ ⟨number, []⟩ :: after) := by
  rw [run_append, run_append]
  refine bind_congr fun t => ?_
  rw [run, run, step_unsupported hkeyword]
  rfl

/-- An unsupported directive gives a warning if it is reached, and this is all that a line without
words in its place takes away. -/
lemma skipped_unsupported (hbefore : ∀ line ∈ before, line.number ≠ number)
    (hafter : ∀ line ∈ after, line.number ≠ number) :
    s.skipped (before ++ ⟨number, []⟩ :: after) =
        (s.skipped (before ++ ⟨number, keyword :: fields⟩ :: after)).filter (·.line ≠ number) ∧
      (s.skipped (before ++ ⟨number, keyword :: fields⟩ :: after)).filter (·.line = number) =
        if (s.run before).isOk then [⟨number, keyword⟩] else [] := by
  have hearlier := filter_skipped_of_ne s hbefore
  rw [skipped_append s before (⟨number, []⟩ :: after),
    skipped_append s before (⟨number, keyword :: fields⟩ :: after), List.filter_append,
    List.filter_append, hearlier.1, hearlier.2]
  cases s.run before with
  | error e => exact ⟨rfl, rfl⟩
  | ok t =>
      have hlater := filter_skipped_of_ne t hafter
      have hwarning : SourceLine.skipped? ⟨number, keyword :: fields⟩ = some ⟨number, keyword⟩ := by
        simp only [SourceLine.skipped?, Directive.ofWords_unsupported fields hkeyword]
      have hthere : t.skipped (⟨number, keyword :: fields⟩ :: after) =
          ⟨number, keyword⟩ :: t.skipped after := by
        simp only [skipped, step_unsupported hkeyword, hwarning]
        rfl
      have hblank : t.skipped (⟨number, []⟩ :: after) = t.skipped after := rfl
      simp only [hthere, hblank]
      constructor
      · rw [List.filter_cons_of_neg (by simp), hlater.1]
      · rw [List.filter_cons_of_pos (by simp), hlater.2]
        rfl

end Loader

namespace Dictionary

/-- A line without words in place of an unsupported directive. -/
lemma load_of_layout_unsupported (d : Dictionary) {before after : List (List String)}
    {keyword : String} {fields : List String} {text text' : String}
    (hkeyword : keyword ∉ ["VENDOR", "BEGIN-VENDOR", "END-VENDOR", "ATTRIBUTE", "VALUE"])
    (h : Layout (before ++ (keyword :: fields) :: after) text.toList)
    (h' : Layout (before ++ [] :: after) text'.toList) :
    d.load text' = d.load text ∧
      d.skipped text' = (d.skipped text).filter (·.line ≠ before.length + 1) ∧
      (d.skipped text).filter (·.line = before.length + 1) =
        if (Loader.run ⟨d, none⟩ (SourceLine.numbered 1 before)).isOk then
          [⟨before.length + 1, keyword⟩]
        else [] := by
  obtain ⟨hload, hskipped⟩ := load_of_layout d h
  obtain ⟨hload', hskipped'⟩ := load_of_layout d h'
  rw [SourceLine.numbered_append, SourceLine.numbered_cons, Nat.add_comm 1] at hload hskipped
  rw [SourceLine.numbered_append, SourceLine.numbered_cons, Nat.add_comm 1] at hload' hskipped'
  have hbefore : ∀ line ∈ SourceLine.numbered 1 before, line.number ≠ before.length + 1 := by
    intro line hline
    have hrange := SourceLine.number_of_mem_numbered hline
    omega
  have hafter : ∀ line ∈ SourceLine.numbered (before.length + 1 + 1) after,
      line.number ≠ before.length + 1 := by
    intro line hline
    have hrange := SourceLine.number_of_mem_numbered hline
    omega
  rw [hload, hload', hskipped, hskipped', Loader.run_unsupported hkeyword]
  exact ⟨rfl, Loader.skipped_unsupported hkeyword ⟨d, none⟩ fields _ _ _ hbefore hafter⟩

/-- **Layout does not count in dictionary text.**  Every text lays out some lines of words.  All
texts that lay out the same lines are loaded to the same dictionary or refused for the same fault of
the same line, and the same directives are skipped: gaps, comments and line ends do not count, nor
does it whether the last line has an end.  A line without words may stand for one with an
unsupported directive: the outcome is the same, and of the warnings only that of this line is gone,
which there is if the lines before it are accepted. -/
theorem load_layout (d : Dictionary) :
    (∀ text : String, ∃ lines, Layout lines text.toList) ∧
      (∀ (lines : List (List String)) (text text' : String),
        Layout lines text.toList → Layout lines text'.toList →
          d.load text' = d.load text ∧ d.skipped text' = d.skipped text) ∧
      ∀ (before after : List (List String)) (keyword : String) (fields : List String)
        (text text' : String),
        keyword ∉ ["VENDOR", "BEGIN-VENDOR", "END-VENDOR", "ATTRIBUTE", "VALUE"] →
          Layout (before ++ (keyword :: fields) :: after) text.toList →
            Layout (before ++ [] :: after) text'.toList →
              d.load text' = d.load text ∧
                d.skipped text' = (d.skipped text).filter (·.line ≠ before.length + 1) ∧
                (d.skipped text).filter (·.line = before.length + 1) =
                  if (Loader.run ⟨d, none⟩ (SourceLine.numbered 1 before)).isOk then
                    [⟨before.length + 1, keyword⟩]
                  else [] := by
  refine ⟨fun text => exists_layout text.toList, ?_, ?_⟩
  · intro lines text text' h h'
    obtain ⟨hload, hskipped⟩ := load_of_layout d h
    obtain ⟨hload', hskipped'⟩ := load_of_layout d h'
    exact ⟨hload'.trans hload.symm, hskipped'.trans hskipped.symm⟩
  · intro before after keyword fields text text' hkeyword h h'
    exact load_of_layout_unsupported d hkeyword h h'

/-- A vendor and a directive that is skipped, laid out in two ways, and a line without words in
place of the directive. -/
theorem load_layout_three_ways :
    load empty "VENDOR A 9\n$INCLUDE" = load empty "\tVENDOR A\u00A09#x\r\n$INCLUDE \r\n" ∧
      skipped empty "VENDOR A 9\n$INCLUDE" =
        skipped empty "\tVENDOR A\u00A09#x\r\n$INCLUDE \r\n" ∧
      load empty "VENDOR A 9\n" = load empty "VENDOR A 9\n$INCLUDE" ∧
      skipped empty "VENDOR A 9\n" =
        (skipped empty "VENDOR A 9\n$INCLUDE").filter (·.line ≠ 2) := by
  have hvendor : IsWord "VENDOR" := by decide
  have hname : IsWord "A" := by decide
  have hnumber : IsWord "9" := by decide
  have hinclude : IsWord "$INCLUDE" := by decide
  have hspace : IsGap [' '] := by decide
  have htab : IsGap ['\t'] := by decide
  have hnoBreak : IsGap ['\u00A0'] := by decide
  have hcomment : IsComment ['#', 'x'] := .inr ⟨['x'], rfl, by decide⟩
  have hlast := Spaced.cons hnumber isGap_nil (by simp) .nil
  have hplain := LineLayout.mk isGap_nil
    (.cons hvendor hspace (by simp) (.cons hname hspace (by simp) hlast)) (.inl rfl)
  have hfancy := LineLayout.mk htab
    (.cons hvendor hspace (by simp) (.cons hname hnoBreak (by simp) hlast)) hcomment
  have hskip := LineLayout.mk isGap_nil (.cons hinclude isGap_nil (by simp) .nil) (.inl rfl)
  have hskip' := LineLayout.mk isGap_nil (.cons hinclude hspace (by simp) .nil) (.inl rfl)
  -- the two layouts of the two lines, and the layout with a second line that leaves no trace
  have h := Layout.cons hplain (.inl rfl) (.last hskip)
  have h' := Layout.cons hfancy (.inr rfl) (.cons hskip' (.inr rfl) .nil)
  have hblank := Layout.cons hplain (.inl rfl) (.last (.mk isGap_nil .nil (.inl rfl)))
  obtain ⟨hload, hskipped⟩ := (load_layout empty).2.1 _
    "\tVENDOR A\u00A09#x\r\n$INCLUDE \r\n" "VENDOR A 9\n$INCLUDE" h' h
  obtain ⟨hload', hskipped', -⟩ := (load_layout empty).2.2 [["VENDOR", "A", "9"]] [] "$INCLUDE" []
    "VENDOR A 9\n$INCLUDE" "VENDOR A 9\n" (by decide) h hblank
  exact ⟨hload, hskipped, hload', hskipped'⟩

end Dictionary

end Radius
