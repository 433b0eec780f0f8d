/-
# Runs and blanks

A run of characters of one sort ends where the text does not go on with it (`takeWhile_run`,
`dropWhile_run`).  Blanks at the two ends of a text are trimmed whatever stands between them
(`trim_around`).  A blank inside a text belongs to no word and parts the words before it from those
after it (`words_append_blank`); what is known of the words of a text follows from that.
-/
import Mathlib.Data.List.TakeWhile
import Mathlib.Tactic.Lemma
import Radius.Text.Blank

namespace Radius.Text

variable {text word rest : List Char} {c : Char}

/-! ### Runs -/

section Runs

variable {p : Char → Bool} (htext : ∀ c ∈ text, p c = true) (hrest : ∀ c ∈ rest.head?, p c = false)
include htext hrest

lemma takeWhile_run : (text ++ rest).takeWhile p = text := by
  rw [List.takeWhile_append_of_pos htext]
  cases rest with
  | nil => exact List.append_nil text
  | cons c rest =>
      rw [List.takeWhile_cons, hrest c rfl, if_neg Bool.false_ne_true, List.append_nil]

lemma dropWhile_run : (text ++ rest).dropWhile p = rest := by
  rw [List.dropWhile_append_of_pos htext]
  cases rest with
  | nil => rfl
  | cons c rest => rw [List.dropWhile_cons, hrest c rfl, if_neg Bool.false_ne_true]

end Runs

/-- What follows a run does not go on with it. -/
lemma head?_dropWhile {p : Char → Bool} (h : text.dropWhile p = rest) :
    ∀ c ∈ rest.head?, p c = false := by
  intro c hc
  have hstop := List.head?_dropWhile_not p text
  rw [h, Option.mem_def.1 hc] at hstop
  exact hstop

/-- The pieces of a text have none of the characters at which it is cut. -/
lemma not_of_mem_splitOnP {p : Char → Bool} {piece : List Char} (h : piece ∈ text.splitOnP p) :
    ∀ c ∈ piece, p c = false := by
  induction text generalizing piece with
  | nil =>
      obtain rfl : piece = [] := by simpa using h
      simp
  | cons c rest ih =>
      rw [List.splitOnP_cons_eq_if_modifyHead] at h
      obtain ⟨first, others, hrest⟩ := List.exists_cons_of_ne_nil (List.splitOnP_ne_nil p rest)
      rw [hrest] at h ih
      split at h
      · rcases List.mem_cons.1 h with rfl | h
        · simp
        · exact ih h
      · rename_i hc
        rcases List.mem_cons.1 h with rfl | h
        · -- the piece that the character is put before
          exact List.forall_mem_cons.2 ⟨Bool.eq_false_iff.2 hc, ih List.mem_cons_self⟩
        · exact ih (List.mem_cons_of_mem _ h)

/-! ### The two ends -/

/-- A text without blanks is left as it is. -/
lemma trim_eq_self (h : ∀ c ∈ text, isBlank c = false) : trim text = text := by
  have hdrop : ∀ l : List Char, (∀ c ∈ l, isBlank c = false) → l.dropWhile isBlank = l := by
    intro l hl
    have hhead : ∀ c ∈ l.head?, isBlank c = false := fun c hc => hl c (List.mem_of_mem_head? hc)
    have hnil : ∀ c ∈ ([] : List Char), isBlank c = true := by simp
    exact dropWhile_run hnil hhead
  have hreverse : ∀ c ∈ text.reverse, isBlank c = false := fun c hc => h c (List.mem_reverse.1 hc)
  rw [trim, hdrop text h, hdrop text.reverse hreverse, List.reverse_reverse]

/-- Blanks around a text are trimmed. -/
lemma trim_around {before after : List Char} (hbefore : ∀ c ∈ before, isBlank c = true)
    (hafter : ∀ c ∈ after, isBlank c = true) (text : List Char) :
    trim (before ++ text ++ after) = trim text := by
  have hreverse : ∀ c ∈ after.reverse, isBlank c = true := fun c hc =>
    hafter c (List.mem_reverse.1 hc)
  rw [List.append_assoc, trim, trim, List.dropWhile_append_of_pos hbefore, List.dropWhile_append]
  split
  · -- only blanks: nothing is left of the text, and nothing of what follows it
    rename_i hempty
    have hnil : after.dropWhile isBlank = [] := List.dropWhile_eq_nil_iff.2 hafter
    rw [hnil, List.isEmpty_iff.1 hempty]
  · rw [List.reverse_append, List.dropWhile_append_of_pos hreverse]

/-- A text is the blanks before, what trimming leaves of it, and the blanks after. -/
lemma exists_trim (text : List Char) :
    ∃ before after, text = before ++ trim text ++ after ∧ (∀ c ∈ before, isBlank c = true) ∧
      ∀ c ∈ after, isBlank c = true := by
  refine ⟨text.takeWhile isBlank,
    ((text.dropWhile isBlank).reverse.takeWhile isBlank).reverse, ?_, ?_, ?_⟩
  · rw [trim, List.append_assoc, ← List.reverse_append, List.takeWhile_append_dropWhile,
      List.reverse_reverse, List.takeWhile_append_dropWhile]
  · intro c hc
    exact List.mem_takeWhile_imp hc
  · intro c hc
    exact List.mem_takeWhile_imp (List.mem_reverse.1 hc)

/-- Of a text that starts with a word only the blanks at the end are trimmed. -/
lemma trim_word_append (hne : word ≠ []) (hword : ∀ c ∈ word, isBlank c = false)
    (text : List Char) : trim (word ++ text) = word ++ (text.reverse.dropWhile isBlank).reverse := by
  have hhead : ∀ c ∈ (word ++ text).head?, isBlank c = false := by
    obtain ⟨c, rest, rfl⟩ := List.exists_cons_of_ne_nil hne
    rintro d ⟨⟩
    exact hword c List.mem_cons_self
  have hlast : ∀ c ∈ word.reverse.head?, isBlank c = false := fun c hc =>
    hword c (List.mem_reverse.1 (List.mem_of_mem_head? hc))
  have hnone : ∀ c ∈ ([] : List Char), isBlank c = true := by simp
  have hend : (text.reverse ++ word.reverse).dropWhile isBlank =
      text.reverse.dropWhile isBlank ++ word.reverse := by
    rw [List.dropWhile_append]
    split
    · rename_i hempty
      rw [List.isEmpty_iff.1 hempty, List.nil_append]
      exact dropWhile_run hnone hlast
    · rfl
  rw [trim, ← List.nil_append (word ++ text), dropWhile_run hnone hhead, List.reverse_append, hend,
    List.reverse_append, List.reverse_reverse]

/-! ### Words -/

lemma words_append_blank (hc : isBlank c = true) (before after : List Char) :
    words (before ++ c :: after) = words before ++ words after := by
  rw [words, List.splitOnP_append_cons before after hc, List.filter_append, ← words, ← words]

lemma words_nil : words [] = [] := rfl

lemma words_cons_blank (hc : isBlank c = true) (text : List Char) :
    words (c :: text) = words text := by
  have h := words_append_blank hc [] text
  rwa [List.nil_append, words_nil, List.nil_append] at h

/-- Blanks before a text are no word. -/
lemma words_blanks_append {blanks : List Char} (h : ∀ c ∈ blanks, isBlank c = true)
    (text : List Char) : words (blanks ++ text) = words text := by
  induction blanks with
  | nil => rfl
  | cons c rest ih =>
      rw [List.cons_append, words_cons_blank (h c List.mem_cons_self)]
      exact ih fun d hd => h d (List.mem_cons_of_mem c hd)

lemma isBlank_of_mem_words (h : word ∈ words text) : ∀ c ∈ word, isBlank c = false :=
  not_of_mem_splitOnP (List.mem_filter.1 h).1

lemma words_word (hne : word ≠ []) (h : ∀ c ∈ word, isBlank c = false) : words word = [word] := by
  have hsplit : word.splitOnP isBlank = [word] :=
    List.splitOnP_eq_singleton h
  rw [words, hsplit]
  simp [hne]

end Radius.Text
