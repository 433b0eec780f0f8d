/-
# Lines of words laid out as text

Lines of words can be written as a text in many ways.  `Layout` has all of them: gaps of any blanks
before, between and after the words of a line, a comment at the end of a line, either line end, and
the last line end present or not.  Reading the lines of a text and the words of its lines undoes any
layout (`Layout.words_lines`), except that a last line without words may be missed, for it need not
leave a trace in the text.  Every text is a layout (`exists_layout`).
-/
import Mathlib.Tactic.Lemma
import Radius.Proofs.Text.Blank
import Radius.Proofs.Text.Lines

namespace Radius.Text

/-- A word has characters, and none of them is a blank or starts a comment. -/
structure IsWord (word : String) : Prop where
  ne_nil : word.toList ≠ []
  plain : ∀ c ∈ word.toList, isBlank c = false ∧ c ≠ '#'

instance (word : String) : Decidable (IsWord word) :=
  have : Decidable (∀ c ∈ word.toList, isBlank c = false ∧ c ≠ '#') :=
    List.decidableBAll (fun c => isBlank c = false ∧ c ≠ '#') word.toList
  decidable_of_iff (word.toList ≠ [] ∧ ∀ c ∈ word.toList, isBlank c = false ∧ c ≠ '#')
    ⟨fun h => ⟨h.1, h.2⟩, fun h => ⟨h.ne_nil, h.plain⟩⟩

/-- A gap has blanks only, and stays in its line. -/
def IsGap (gap : List Char) : Prop :=
  ∀ c ∈ gap, isBlank c = true ∧ c ≠ '\n'

instance (gap : List Char) : Decidable (IsGap gap) :=
  List.decidableBAll (fun c => isBlank c = true ∧ c ≠ '\n') gap

/-- A comment, which may be missing, goes from a `#` to the end of the line. -/
def IsComment (comment : List Char) : Prop :=
  comment = [] ∨ ∃ remark, comment = '#' :: remark ∧ '\n' ∉ remark

/-- Words with a gap after each of them, which may be empty only after the last. -/
inductive Spaced : List String → List Char → Prop
  | nil : Spaced [] []
  | cons {word : String} {words : List String} {gap rest : List Char} (hword : IsWord word)
      (hgap : IsGap gap) (hparted : words ≠ [] → gap ≠ []) (hrest : Spaced words rest) :
      Spaced (word :: words) (word.toList ++ gap ++ rest)

/-- A line with the given words. -/
inductive LineLayout (words : List String) : List Char → Prop
  | mk {gap body comment : List Char} (hgap : IsGap gap) (hbody : Spaced words body)
      (hcomment : IsComment comment) : LineLayout words (gap ++ body ++ comment)

/-- A text with the given lines. -/
inductive Layout : List (List String) → List Char → Prop
  | nil : Layout [] []
  | last {words : List String} {line : List Char} (hline : LineLayout words line) :
      Layout [words] line
  | cons {words : List String} {line lineEnd rest : List Char} {lines : List (List String)}
      (hline : LineLayout words line) (hend : lineEnd = ['\n'] ∨ lineEnd = ['\r', '\n'])
      (hrest : Layout lines rest) : Layout (words :: lines) (line ++ lineEnd ++ rest)

variable {words : List String} {lines : List (List String)} {gap body line text : List Char}

/-! ### Words of a line -/

lemma IsGap.plain (h : IsGap gap) : ∀ c ∈ gap, c ≠ '#' ∧ c ≠ '\n' := by
  intro c hc
  refine ⟨?_, (h c hc).2⟩
  rintro rfl
  cases (h _ hc).1

lemma Spaced.plain (h : Spaced words body) : ∀ c ∈ body, c ≠ '#' ∧ c ≠ '\n' := by
  induction h with
  | nil => simp
  | cons hword hgap hparted hrest ih =>
      intro c hc
      rw [List.mem_append, List.mem_append] at hc
      rcases hc with (hc | hc) | hc
      · obtain ⟨hblank, hcomment⟩ := hword.plain c hc
        refine ⟨hcomment, ?_⟩
        rintro rfl
        cases hblank
      · exact hgap.plain c hc
      · exact ih c hc

lemma words_gap_append (h : IsGap gap) (text : List Char) :
    Text.words (gap ++ text) = Text.words text :=
  words_blanks_append (fun c hc => (h c hc).1) text

lemma words_of_spaced (h : Spaced words body) : Text.words body = words.map String.toList := by
  induction h with
  | nil => rfl
  | @cons word words gap rest hword hgap hparted hrest ih =>
      have hhead : Text.words word.toList = [word.toList] :=
        words_word hword.ne_nil fun c hc => (hword.plain c hc).1
      cases gap with
      | nil =>
          -- nothing parts the word from what follows, so that nothing does
          obtain rfl : words = [] := by
            by_contra hne
            exact hparted hne rfl
          cases hrest
          rw [List.append_nil, List.append_nil, hhead]
          rfl
      | cons c gap =>
          have hgap' : IsGap gap := fun d hd => hgap d (List.mem_cons_of_mem c hd)
          rw [List.append_assoc, List.cons_append,
            words_append_blank (hgap c List.mem_cons_self).1, hhead, words_gap_append hgap', ih]
          rfl

/-- The comment is cut off, and gaps are no words. -/
lemma words_of_lineLayout (h : LineLayout words line) :
    Text.words (withoutComment line) = words.map String.toList := by
  obtain ⟨hgap, hbody, hcomment⟩ := h
  rename_i gap body comment
  have hplain : ∀ c ∈ gap ++ body, (c != '#') = true := by
    intro c hc
    rw [List.mem_append] at hc
    rcases hc with hc | hc
    · exact bne_iff_ne.2 (hgap.plain c hc).1
    · exact bne_iff_ne.2 (hbody.plain c hc).1
  have hstart : ∀ c ∈ comment.head?, (c != '#') = false := by
    rcases hcomment with rfl | ⟨remark, rfl, -⟩ <;> simp
  rw [withoutComment, takeWhile_run hplain hstart, words_gap_append hgap, words_of_spaced hbody]

lemma newline_not_mem_of_lineLayout (h : LineLayout words line) : '\n' ∉ line := by
  obtain ⟨hgap, hbody, hcomment⟩ := h
  simp only [List.mem_append, not_or]
  refine ⟨⟨fun h => (hgap.plain _ h).2 rfl, fun h => (hbody.plain _ h).2 rfl⟩, ?_⟩
  rcases hcomment with rfl | ⟨remark, rfl, hremark⟩
  · simp
  · simpa using hremark

/-- A carriage return at the end of a line is a blank or belongs to the comment. -/
lemma words_withoutComment_return (line : List Char) :
    Text.words (withoutComment (line ++ ['\r'])) = Text.words (withoutComment line) := by
  rw [withoutComment, withoutComment, List.takeWhile_append]
  split
  · rename_i hall
    have hwhole : line.takeWhile (· != '#') = line :=
      (List.takeWhile_prefix _).eq_of_length hall
    have hreturn : ['\r'].takeWhile (· != '#') = ['\r'] := rfl
    rw [hreturn, hwhole, words_append_blank rfl, words_nil, List.append_nil]
  · rfl

/-! ### Lines of a text -/

lemma splitOn_of_not_mem (h : '\n' ∉ line) : line.splitOn '\n' = [line] := by
  refine List.splitOnP_eq_singleton fun c hc => beq_eq_false_iff_ne.2 ?_
  rintro rfl
  exact h hc

lemma lines_line_append (h : '\n' ∉ line) (rest : List Char) :
    Text.lines (line ++ '\n' :: rest) = line :: Text.lines rest := by
  rw [lines_append_splitOn, splitOn_of_not_mem h, List.singleton_append]

lemma lines_line (h : '\n' ∉ line) (hne : line ≠ []) : Text.lines line = [line] := by
  simp [Text.lines, splitOn_of_not_mem h, hne]

/-- The words of the lines are those that were laid out, but a last line without words may be
missing. -/
lemma Layout.words_lines (h : Layout lines text) :
    let found := (Text.lines text).map fun line =>
      (Text.words (withoutComment line)).map String.ofList
    found = lines ∨ found ++ [[]] = lines := by
  have hread : ∀ {words : List String} {line : List Char},
      Text.words (withoutComment line) = words.map String.toList →
        (Text.words (withoutComment line)).map String.ofList = words := by
    intro words line h
    simp [h]
  induction h with
  | nil => exact .inl rfl
  | @last words line hline =>
      have hwords := hread (words_of_lineLayout hline)
      by_cases hne : line = []
      · subst hne
        obtain rfl : [] = words := hwords
        exact .inr rfl
      · rw [lines_line (newline_not_mem_of_lineLayout hline) hne]
        exact .inl (congrArg (fun words => [words]) hwords)
  | @cons words line lineEnd rest lines hline hend hrest ih =>
      have hnewline := newline_not_mem_of_lineLayout hline
      have hwords := words_of_lineLayout hline
      -- the line as it is read, with the carriage return that may stand before the line feed
      obtain ⟨whole, htext, hwhole, hread'⟩ : ∃ whole : List Char,
          line ++ lineEnd ++ rest = whole ++ '\n' :: rest ∧ '\n' ∉ whole ∧
            Text.words (withoutComment whole) = words.map String.toList := by
        rcases hend with rfl | rfl
        · exact ⟨line, by simp, hnewline, hwords⟩
        · refine ⟨line ++ ['\r'], by simp, by simpa using hnewline, ?_⟩
          rw [words_withoutComment_return, hwords]
      rw [htext, lines_line_append hwhole]
      simp only [List.map_cons, List.cons_append, hread hread', List.cons.injEq, true_and]
      exact ih

/-! ### Layouts there are -/

lemma isGap_nil : IsGap [] := by
  decide

lemma exists_spaced (h : ∀ c ∈ text, c ≠ '#' ∧ c ≠ '\n') :
    ∃ gap words body, IsGap gap ∧ Spaced words body ∧ text = gap ++ body := by
  induction text with
  | nil => exact ⟨[], [], [], isGap_nil, .nil, rfl⟩
  | cons c rest ih =>
      obtain ⟨gap, words, body, hgap, hbody, rfl⟩ := ih fun d hd => h d (List.mem_cons_of_mem c hd)
      obtain ⟨hcomment, hnewline⟩ := h c List.mem_cons_self
      cases hblank : isBlank c with
      | true => exact ⟨c :: gap, words, body, List.forall_mem_cons.2 ⟨⟨hblank, hnewline⟩, hgap⟩,
          hbody, rfl⟩
      | false =>
          by_cases hjoin : gap = [] ∧ words ≠ []
          · -- the character is the first of the word that follows
            obtain ⟨rfl, hne⟩ := hjoin
            cases hbody with
            | nil => exact absurd rfl hne
            | @cons word words gap rest hword hgap' hparted hrest =>
                have hlonger : IsWord (String.ofList (c :: word.toList)) := by
                  refine ⟨by simp, fun d hd => ?_⟩
                  rw [String.toList_ofList] at hd
                  rcases List.mem_cons.1 hd with rfl | hd
                  · exact ⟨hblank, hcomment⟩
                  · exact hword.plain d hd
                refine ⟨[], _, _, isGap_nil, .cons hlonger hgap' hparted hrest, ?_⟩
                simp
          · have hword : IsWord (String.ofList [c]) := by
              refine ⟨by simp, fun d hd => ?_⟩
              rw [String.toList_ofList] at hd
              obtain rfl := List.mem_singleton.1 hd
              exact ⟨hblank, hcomment⟩
            have hparted : words ≠ [] → gap ≠ [] := fun hne hnil => hjoin ⟨hnil, hne⟩
            refine ⟨[], _, _, isGap_nil, .cons hword hgap hparted hbody, ?_⟩
            simp

lemma exists_lineLayout (h : '\n' ∉ line) : ∃ words, LineLayout words line := by
  have hmem : ∀ c ∈ line, c ≠ '\n' := by
    rintro c hc rfl
    exact h hc
  have hplain : ∀ c ∈ withoutComment line, c ≠ '#' ∧ c ≠ '\n' := fun c hc =>
    ⟨bne_iff_ne.1 (List.mem_takeWhile_imp (p := (· != '#')) hc),
      hmem c ((List.takeWhile_sublist _).mem hc)⟩
  obtain ⟨gap, words, body, hgap, hbody, hcut⟩ := exists_spaced hplain
  have hcomment : IsComment (line.dropWhile (· != '#')) := by
    cases hrest : line.dropWhile (· != '#') with
    | nil => exact .inl rfl
    | cons c remark =>
        obtain rfl : c = '#' := by simpa using head?_dropWhile hrest c rfl
        refine .inr ⟨remark, rfl, fun hremark => ?_⟩
        have hin : '\n' ∈ line.dropWhile (· != '#') := hrest ▸ List.mem_cons_of_mem _ hremark
        exact h ((List.dropWhile_sublist _).mem hin)
  have hline : line = gap ++ body ++ line.dropWhile (· != '#') := by
    rw [← hcut, withoutComment, List.takeWhile_append_dropWhile]
  rw [hline]
  exact ⟨words, .mk hgap hbody hcomment⟩

/-- Every text is a layout of some lines. -/
lemma exists_layout (text : List Char) : ∃ lines, Layout lines text := by
  have hpieces : ∀ pieces : List (List Char), (∀ piece ∈ pieces, '\n' ∉ piece) →
      ∃ lines, Layout lines (['\n'].intercalate pieces) := by
    intro pieces hmem
    induction pieces with
    | nil => exact ⟨[], .nil⟩
    | cons piece pieces ih =>
        obtain ⟨words, hline⟩ := exists_lineLayout (hmem piece List.mem_cons_self)
        obtain ⟨lines, hrest⟩ := ih fun p hp => hmem p (List.mem_cons_of_mem piece hp)
        cases pieces with
        | nil => exact ⟨[words], by simpa using Layout.last hline⟩
        | cons next pieces =>
            refine ⟨words :: lines, ?_⟩
            rw [List.intercalate_cons_cons]
            exact .cons hline (.inl rfl) hrest
  have h := hpieces (text.splitOn '\n') fun piece => newline_not_mem_of_mem_splitOn
  rwa [List.intercalate_splitOn] at h

end Radius.Text
