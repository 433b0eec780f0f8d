/-
# Hexadecimal that an operator pastes

What an operator may paste for some octets, said without the reader (`Hex.Pastes`): blanks, at most
one mark, and then the two digits of each octet in either letter case, with blanks and colons strewn
among them.  The reader trims the text, takes the mark off and drops blanks and colons, in this
order; so a mark is one only where nothing but blanks stand before it, and no other character is
dropped (`decodePasted_eq_ok_iff`).
-/
import Mathlib.Data.List.Basic
import Radius.Proofs.Outcome
import Radius.Proofs.Text.Case
import Radius.Proofs.Text.Hex
import Radius.Query

namespace Radius

open Text Outcome

namespace Text.Hex

variable {text digits : List Char} {octets : Octets} {c : Char}

/-! ### What is pasted -/

/-- The two digits of each octet, in any mix of letter cases. -/
def Spells (digits : List Char) (octets : Octets) : Prop :=
  digits.map Char.toLower = octets.flatMap fun octet =>
    [Nat.digitChar (octet.toNat / 16), Nat.digitChar (octet.toNat % 16)]

/-- Characters with any number of blanks and colons strewn among them. -/
inductive Strewn : List Char → List Char → Prop
  | nil : Strewn [] []
  | keep {c : Char} {digits text : List Char} (h : Strewn digits text) :
      Strewn (c :: digits) (c :: text)
  | strew {c : Char} {digits text : List Char} (hc : isBlank c = true ∨ c = ':')
      (h : Strewn digits text) : Strewn digits (c :: text)

/-- The texts that an operator may paste for some octets. -/
def Pastes (text : List Char) (octets : Octets) : Prop :=
  ∃ blanks mark digits body, text = blanks ++ mark ++ body ∧ (∀ c ∈ blanks, isBlank c = true) ∧
    mark ∈ [[], ['0', 'x'], ['0', 'X']] ∧ Strewn digits body ∧ Spells digits octets

/-! ### Digits -/

lemma digit_eq_ok_iff {index n : Nat} :
    digit index c = .ok n ↔ n < 16 ∧ c.toLower = Nat.digitChar n := by
  rw [digit, ← digit?_hex_eq_some_iff]
  cases digit? 16 c <;> simp

/-- An octet has its two digits and no others. -/
lemma eq_halves_iff {octet : UInt8} {high low : Nat} (hhigh : high < 16) (hlow : low < 16) :
    UInt8.ofNat (high * 16 + low) = octet ↔ high = octet.toNat / 16 ∧ low = octet.toNat % 16 := by
  rw [← UInt8.toNat_inj, UInt8.toNat_ofNat_of_lt' (by show _ < 256; omega)]
  omega

/-- Digits are read in pairs, as octets are spelled. -/
lemma pairs_eq_ok_iff {index : Nat} : pairs index text = .ok octets ↔ Spells text octets := by
  induction index, text using pairs.induct generalizing octets with
  | case1 index =>
      rw [pairs, Spells, Except.ok.injEq]
      cases octets <;> simp
  | case2 index c =>
      -- one digit is read, but no octet has one digit only
      rw [pairs, bind_eq_ok_iff, Spells]
      cases octets <;> simp
  | case3 index high low rest ih =>
      rw [pairs]
      simp only [bind_eq_ok_iff, digit_eq_ok_iff, ih]
      constructor
      · rintro ⟨h, ⟨hh, hhigh⟩, l, ⟨hl, hlow⟩, octets, hrest, hread⟩
        obtain rfl := Except.ok.inj hread
        obtain ⟨hhalf, hhalf'⟩ := (eq_halves_iff hh hl).1 rfl
        rw [Spells, List.map_cons, List.map_cons, List.flatMap_cons, ← hhalf, ← hhalf', hhigh, hlow,
          hrest]
        rfl
      · intro hspells
        cases octets with
        | nil => simp [Spells] at hspells
        | cons octet octets =>
            obtain ⟨hhigh, hspells⟩ := List.cons.inj hspells
            obtain ⟨hlow, hrest⟩ := List.cons.inj hspells
            have hlt := octet.toNat_lt
            have hh : octet.toNat / 16 < 16 := by omega
            have hl : octet.toNat % 16 < 16 := by omega
            refine ⟨_, ⟨hh, hhigh⟩, _, ⟨hl, hlow⟩, octets, hrest, ?_⟩
            rw [(eq_halves_iff hh hl).2 ⟨rfl, rfl⟩]
            rfl

/-- A hexadecimal digit is one octet of the text, and is neither a blank nor a colon nor the letter
of a mark. -/
lemma of_mem_digits (h : Spells digits octets) (hc : c ∈ digits) :
    c.toNat ≤ 0x7F ∧ isBlank c = false ∧ c ≠ ':' ∧ c ≠ 'x' ∧ c ≠ 'X' := by
  have hencode : digits.map Char.toLower = encode octets := h
  have hmem : c.toLower ∈ encode octets := hencode ▸ List.mem_map_of_mem hc
  obtain ⟨hone, hblank, hcolon, hmark, -⟩ := of_mem_encode hmem
  rw [isBlank_toLower] at hblank
  rw [toNat_toLower] at hone
  refine ⟨?_, hblank, ?_, ?_, ?_⟩
  · split_ifs at hone <;> omega
  · rintro rfl
    exact hcolon rfl
  · rintro rfl
    exact hmark rfl
  · rintro rfl
    exact hmark rfl

/-- Octets are read from their digits, and from nothing else. -/
lemma decode_eq_ok_iff : decode digits = .ok octets ↔ Spells digits octets := by
  constructor
  · intro h
    rw [decode] at h
    split_ifs at h
    exact pairs_eq_ok_iff.1 h
  · intro h
    have hlength : (Utf8.encode digits).length = 2 * octets.length := by
      have hsame := congrArg List.length h
      rw [List.length_map] at hsame
      rw [length_utf8Encode fun c hc => (of_mem_digits h hc).1, hsame]
      exact length_encode octets
    rw [decode, if_neg (by omega), pairs_eq_ok_iff.2 h]

/-! ### Blanks and colons -/

/-- Whether a character counts where octets are pasted. -/
def counts (c : Char) : Bool :=
  !isBlank c && c != ':'

lemma counts_eq_false_iff : counts c = false ↔ isBlank c = true ∨ c = ':' := by
  rw [counts, Bool.and_eq_false_iff, Bool.not_eq_false', bne_eq_false_iff_eq]

lemma counts_of_spells (h : Spells digits octets) : ∀ c ∈ digits, counts c = true := by
  intro c hc
  obtain ⟨-, hblank, hcolon, -⟩ := of_mem_digits h hc
  rw [← Bool.not_eq_false, counts_eq_false_iff, not_or, Bool.not_eq_true]
  exact ⟨hblank, hcolon⟩

/-- Characters that count are strewn into a text exactly if they are what counts in it. -/
lemma strewn_iff (hdigits : ∀ c ∈ digits, counts c = true) :
    Strewn digits text ↔ text.filter counts = digits := by
  constructor
  · intro h
    induction h with
    | nil => rfl
    | keep h ih =>
        obtain ⟨hc, hdigits⟩ := List.forall_mem_cons.1 hdigits
        rw [List.filter_cons_of_pos hc, ih hdigits]
    | strew hc h ih =>
        rw [List.filter_cons_of_neg (by rw [counts_eq_false_iff.2 hc]; decide), ih hdigits]
  · rintro rfl
    induction text with
    | nil => exact .nil
    | cons c rest ih =>
        have hrest := ih fun d hd => (List.mem_filter.1 hd).2
        cases hc : counts c with
        | true =>
            rw [List.filter_cons_of_pos hc]
            exact .keep hrest
        | false =>
            rw [List.filter_cons_of_neg (by simp [hc])]
            exact .strew (counts_eq_false_iff.1 hc) hrest

lemma filter_counts_blanks {blanks : List Char} (h : ∀ c ∈ blanks, isBlank c = true) :
    blanks.filter counts = [] := by
  rw [List.filter_eq_nil_iff]
  intro c hc
  rw [counts_eq_false_iff.2 (.inl (h c hc))]
  decide

/-- Trimming takes away nothing that counts. -/
lemma filter_counts_trim (text : List Char) : (trim text).filter counts = text.filter counts := by
  obtain ⟨before, after, htext, hbefore, hafter⟩ := exists_trim text
  conv_rhs => rw [htext]
  rw [List.filter_append, List.filter_append, filter_counts_blanks hbefore,
    filter_counts_blanks hafter, List.nil_append, List.append_nil]

/-! ### Marks -/

/-- A text is its mark, if it has one, and the rest. -/
lemma exists_mark (text : List Char) :
    ∃ mark, mark ∈ [[], ['0', 'x'], ['0', 'X']] ∧ text = mark ++ withoutMark text := by
  unfold withoutMark
  split
  · exact ⟨['0', 'x'], by simp, rfl⟩
  · exact ⟨['0', 'X'], by simp, rfl⟩
  · exact ⟨[], by simp, rfl⟩

/-- What is pasted has no letter of a mark behind its mark. -/
lemma not_mem_of_strewn (hstrewn : Strewn digits text) (h : Spells digits octets) :
    'x' ∉ text ∧ 'X' ∉ text := by
  have hfilter := (strewn_iff (counts_of_spells h)).1 hstrewn
  constructor
  · intro hmem
    exact (of_mem_digits h (hfilter ▸ List.mem_filter.2 ⟨hmem, by decide⟩)).2.2.2.1 rfl
  · intro hmem
    exact (of_mem_digits h (hfilter ▸ List.mem_filter.2 ⟨hmem, by decide⟩)).2.2.2.2 rfl

/-- What counts behind a mark is what the reader keeps. -/
lemma filter_counts_withoutMark_trim {mark body : List Char}
    (hmark : mark ∈ [[], ['0', 'x'], ['0', 'X']]) (hlower : 'x' ∉ body) (hupper : 'X' ∉ body) :
    (withoutMark (trim (mark ++ body))).filter counts = body.filter counts := by
  rcases List.mem_cons.1 hmark with rfl | hmark
  · obtain ⟨before, after, hbody, -, -⟩ := exists_trim body
    have hsub : ∀ c ∈ trim body, c ∈ body := by
      intro c hc
      rw [hbody]
      simp [hc]
    rw [List.nil_append, withoutMark_eq_self (fun h => hlower (hsub _ h))
      (fun h => hupper (hsub _ h)), filter_counts_trim]
  · have hletter : ∀ c : Char, isBlank c = false → ∀ d ∈ ['0', c], isBlank d = false :=
      fun c hc => List.forall_mem_cons.2 ⟨rfl, List.forall_mem_singleton.2 hc⟩
    have hword : mark ≠ [] ∧ ∀ c ∈ mark, isBlank c = false := by
      rcases List.mem_pair.1 hmark with rfl | rfl
      · exact ⟨List.cons_ne_nil _ _, hletter 'x' rfl⟩
      · exact ⟨List.cons_ne_nil _ _, hletter 'X' rfl⟩
    have htrim := trim_word_append hword.1 hword.2 body
    have hwithout : withoutMark (trim (mark ++ body)) =
        (body.reverse.dropWhile isBlank).reverse := by
      rw [htrim]
      rcases List.mem_pair.1 hmark with rfl | rfl <;> rfl
    -- trimming drops nothing that counts, before or behind the mark
    have hfilter := filter_counts_trim (mark ++ body)
    rw [htrim, List.filter_append, List.filter_append] at hfilter
    rw [hwithout]
    exact List.append_cancel_left hfilter

/-! ### What is read -/

lemma decodePasted_eq_ok_iff : decodePasted text = .ok octets ↔ Pastes text octets := by
  change decode ((withoutMark (trim text)).filter counts) = .ok octets ↔ _
  rw [decode_eq_ok_iff]
  constructor
  · intro h
    obtain ⟨before, after, htext, hbefore, hafter⟩ := exists_trim text
    obtain ⟨mark, hmark, htrim⟩ := exists_mark (trim text)
    refine ⟨before, mark, _, withoutMark (trim text) ++ after, ?_, hbefore, hmark, ?_, h⟩
    · rw [← List.append_assoc, List.append_assoc before, ← htrim]
      exact htext
    · rw [strewn_iff (counts_of_spells h), List.filter_append, filter_counts_blanks hafter,
        List.append_nil]
  · rintro ⟨blanks, mark, digits, body, rfl, hblanks, hmark, hstrewn, h⟩
    have htrim : trim (blanks ++ mark ++ body) = trim (mark ++ body) := by
      have haround := trim_around hblanks (List.forall_mem_nil _) (mark ++ body)
      rwa [List.append_nil, ← List.append_assoc] at haround
    obtain ⟨hlower, hupper⟩ := not_mem_of_strewn hstrewn h
    rw [htrim, filter_counts_withoutMark_trim hmark hlower hupper,
      (strewn_iff (counts_of_spells h)).1 hstrewn]
    exact h

end Text.Hex

/-- **What is pasted is read, and nothing else.**  A text is read as some octets exactly if it is
blanks, then at most one mark `0x` or `0X`, and then the two digits of each octet in order, in any
mix of letter cases, with any number of blanks and colons before, between and behind them, also
between the two digits of one octet.  No other character is passed over. -/
theorem readPasted_eq_ok_iff {input : String} {octets : Octets} :
    readPasted input = .ok octets ↔ Hex.Pastes input.toList octets := by
  rw [readPasted, mapError_eq_ok_iff, Hex.decodePasted_eq_ok_iff]

example : readPasted "\t0x:1A 0\nc " = .ok [0x1A, 0x0C] := by rfl

end Radius
