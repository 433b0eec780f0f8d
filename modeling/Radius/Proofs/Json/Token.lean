/-
# Tokens of written text

What a document is written in is read back token by token: a string between quotation marks is the
token of that string, whatever characters it has (`token?_quote`), and a number with its sign is the
token of a number (`exists_token?_toString`).  A number ends where something else than a digit, a
point or an exponent follows, so these lemmas speak of a text in front of a rest.
-/
import Radius.Json
import Radius.Json.Token
import Radius.Proofs.Text.Numeral

namespace Radius.Json

open Text

variable {c d : Char} {text rest : List Char}

/-! ### Strings -/

lemma stringUnits?_backslash (h : unescape? c = some d) (text : List Char) :
    stringUnits? ('\\' :: c :: text) =
      (stringUnits? text).map fun (units, rest) => (d.toNat :: units, rest) := by
  have hu : c ≠ 'u' := by
    rintro rfl
    simp [unescape?] at h
  rw [stringUnits?.eq_def]
  split
  case h_4 rest _ heq =>
    obtain ⟨rfl, rfl⟩ := List.cons.inj (List.cons.inj heq).2
    rw [h]
    cases stringUnits? text <;> rfl
  case h_5 hnone heq =>
    obtain ⟨rfl, rfl⟩ := List.cons.inj heq
    exact absurd rfl (hnone c text rfl)
  all_goals simp_all

lemma digits?_control {n : Nat} (h : n < 0x20) :
    digits? 16 ['0', '0', Nat.digitChar (n / 16), Nat.digitChar (n % 16)] = some n := by
  have hall : ∀ n : Fin 0x20,
      digits? 16 ['0', '0', Nat.digitChar (n / 16), Nat.digitChar (n % 16)] = some n.val := by
    decide
  exact hall ⟨n, h⟩

lemma stringUnits?_plain (hquote : c ≠ '"') (hbackslash : c ≠ '\\') (hcontrol : ¬ c.toNat < 0x20)
    (text : List Char) :
    stringUnits? (c :: text) =
      (stringUnits? text).map fun (units, rest) => (c.toNat :: units, rest) := by
  rw [stringUnits?.eq_def]
  split
  case h_5 rest heq =>
    obtain ⟨rfl, rfl⟩ := List.cons.inj heq
    rw [if_neg (not_or.2 ⟨hcontrol, hbackslash⟩)]
    cases stringUnits? text <;> rfl
  all_goals simp_all

/-- A character is read from its escape. -/
lemma stringUnits?_escape (c : Char) (text : List Char) :
    stringUnits? (escape c ++ text) =
      (stringUnits? text).map fun (units, rest) => (c.toNat :: units, rest) := by
  unfold escape
  split
  -- the escapes that have a letter or a mark of their own
  iterate 7 exact stringUnits?_backslash rfl text
  split
  · rename_i hcontrol
    rw [List.cons_append, List.cons_append, List.cons_append, List.cons_append, List.cons_append,
      List.cons_append, List.nil_append, stringUnits?, digits?_control hcontrol]
    cases stringUnits? text <;> rfl
  · rename_i hquote hbackslash _ _ _ _ _ hcontrol
    exact stringUnits?_plain hquote hbackslash hcontrol text

/-- A string is read up to its closing quotation mark. -/
lemma stringUnits?_flatMap_escape (text rest : List Char) :
    stringUnits? (text.flatMap escape ++ '"' :: rest) = some (text.map Char.toNat, rest) := by
  induction text with
  | nil => rfl
  | cons c text ih =>
      rw [List.flatMap_cons, List.append_assoc, stringUnits?_escape, ih]
      rfl

lemma isSurrogate_toNat (c : Char) :
    isHighSurrogate c.toNat = false ∧ isLowSurrogate c.toNat = false := by
  have hvalid : c.toNat.isValidChar := c.valid
  simp only [Nat.isValidChar] at hvalid
  simp only [isHighSurrogate, isLowSurrogate, Bool.and_eq_false_iff, decide_eq_false_iff_not]
  omega

/-- The numbers of characters are the text of the characters: none of them is half of a pair. -/
lemma textOfUnits?_map_toNat (text : List Char) :
    textOfUnits? (text.map Char.toNat) = some text := by
  induction text with
  | nil => rfl
  | cons c rest ih =>
      obtain ⟨hhigh, hlow⟩ := isSurrogate_toNat c
      cases rest with
      | nil => simp [textOfUnits?, hhigh, hlow]
      | cons d rest =>
          rw [List.map_cons, List.map_cons] at *
          simp [textOfUnits?, hhigh, hlow, ih]

/-- A string between quotation marks is the token of the string. -/
lemma token?_quote (text : String) (rest : List Char) :
    token? '"' (text.toList.flatMap escape ++ '"' :: rest) = some (.string (some text), rest) := by
  simp [token?, stringUnits?_flatMap_escape, textOfUnits?_map_toNat]

/-! ### Numbers -/

/-- A text in front of which a number ends: in a document it is a comma, a new line or nothing. -/
def IsBreak (rest : List Char) : Prop :=
  ∀ c ∈ rest.head?, c = ',' ∨ c = '\n'

lemma afterDigits?_append (hdigits : ∀ c ∈ text, c.isDigit = true) (hne : text ≠ [])
    (hrest : IsBreak rest) : afterDigits? (text ++ rest) = some rest := by
  have hdrop : (text ++ rest).dropWhile Char.isDigit = rest := by
    rw [List.dropWhile_append_of_pos hdigits]
    cases rest with
    | nil => rfl
    | cons c rest =>
        refine List.dropWhile_cons_of_neg ?_
        rcases hrest c rfl with rfl | rfl <;> decide
  have hlength : rest.length < (text ++ rest).length := by
    have := List.length_pos_iff.2 hne
    rw [List.length_append]
    omega
  rw [afterDigits?, hdrop]
  exact if_pos hlength

lemma afterFraction?_of_isBreak (hrest : IsBreak rest) : afterFraction? rest = some rest := by
  unfold afterFraction?
  split
  · exact absurd (hrest _ rfl) (by decide)
  · rfl

lemma afterExponent?_of_isBreak (hrest : IsBreak rest) : afterExponent? rest = some rest := by
  unfold afterExponent?
  split
  · exact absurd (hrest _ rfl) (by decide)
  · exact absurd (hrest _ rfl) (by decide)
  · rfl

lemma afterNumber?_toDigits (n : Nat) (hrest : IsBreak rest) :
    afterNumber? (Nat.toDigits 10 n ++ rest) = some rest := by
  have hfraction := afterFraction?_of_isBreak hrest
  have hexponent := afterExponent?_of_isBreak hrest
  unfold afterNumber?
  split
  · rename_i after htext
    -- only the numeral of zero starts with zero
    have hhead : (Nat.toDigits 10 n).head? = some '0' := by
      obtain ⟨c, rest, hcons⟩ := List.exists_cons_of_ne_nil (Nat.toDigits_ne_nil (b := 10) (n := n))
      rw [hcons] at htext ⊢
      exact congrArg List.head? htext
    have hzero : n = 0 :=
      Nat.eq_zero_of_not_pos fun hn => head?_toDigits_ne_zero (by decide) hn hhead
    subst hzero
    obtain rfl : rest = after := (List.cons.inj htext).2
    rw [hfraction, Option.bind_some, hexponent]
  · rw [afterDigits?_append (fun c => isDigit_of_mem_decimal) Nat.toDigits_ne_nil hrest,
      Option.bind_some, hfraction, Option.bind_some, hexponent]

lemma token?_of_isDigit (hc : c.isDigit = true) (text : List Char) :
    token? c text = (afterNumber? (c :: text)).map (.number, ·) := by
  unfold token?
  split <;> first | rfl | exact absurd hc (by decide)

/-- A number with its sign is the token of a number. -/
lemma exists_token?_toString (i : Int) (hrest : IsBreak rest) :
    ∃ c text, (toString i).toList = c :: text ∧ isSpace c = false ∧
      token? c (text ++ rest) = some (.number, rest) := by
  rw [Int.toString_eq_repr, Int.repr_eq_if]
  split_ifs with hi
  · obtain ⟨c, text, hcons⟩ :=
      List.exists_cons_of_ne_nil (Nat.toDigits_ne_nil (b := 10) (n := i.toNat))
    have hc : c.isDigit = true := isDigit_of_mem_decimal (hcons ▸ List.mem_cons_self)
    have hnumber := afterNumber?_toDigits i.toNat hrest
    rw [hcons] at hnumber
    refine ⟨c, text, by rw [Nat.repr_eq_ofList_toDigits, String.toList_ofList, hcons], ?_, ?_⟩
    · cases hspace : isSpace c with
      | false => rfl
      | true =>
          simp only [isSpace, Bool.or_eq_true, decide_eq_true_eq] at hspace
          rcases hspace with ((rfl | rfl) | rfl) | rfl <;> exact absurd hc (by decide)
    · rw [token?_of_isDigit hc, ← List.cons_append, hnumber]
      rfl
  · refine ⟨'-', Nat.toDigits 10 (-i).toNat, ?_, by decide, ?_⟩
    · rw [Nat.repr_eq_ofList_toDigits, String.toList_append, String.toList_ofList,
        String.toList_ofList]
      rfl
    · show (afterNumber? (Nat.toDigits 10 (-i).toNat ++ rest)).map (Token.number, ·) = _
      rw [afterNumber?_toDigits _ hrest]
      rfl

/-! ### Tokens one after the other -/

variable {ts : List Token}

@[simp] lemma tokens?_nil : tokens? [] = some [] := by
  rw [tokens?]

lemma tokens?_of_isSpace (hc : isSpace c = true) (text : List Char) :
    tokens? (c :: text) = tokens? text := by
  rw [tokens?, if_pos hc]

/-- A token and the tokens of what follows it are the tokens of the whole. -/
lemma tokens?_of_token? {token : Token} (hc : isSpace c = false)
    (h : token? c text = some (token, rest)) (hrest : tokens? rest = some ts) :
    tokens? (c :: text) = some (token :: ts) := by
  rw [tokens?, if_neg (by simp [hc])]
  split
  · rename_i hnone
    simp [h] at hnone
  · rename_i token' rest' hsome
    rw [h, Option.some.injEq, Prod.mk.injEq] at hsome
    obtain ⟨rfl, rfl⟩ := hsome
    rw [hrest]
    rfl

/-- A new line and the spaces after it stand between tokens. -/
lemma tokens?_newline (depth : Nat) (text : List Char) :
    tokens? (newline depth ++ text) = tokens? text := by
  rw [newline, List.cons_append, tokens?_of_isSpace (by decide)]
  induction 2 * depth with
  | zero => rfl
  | succ n ih => rw [List.replicate_succ, List.cons_append, tokens?_of_isSpace (by decide), ih]

lemma tokens?_quote (text : String) (hrest : tokens? rest = some ts) :
    tokens? (quote text ++ rest) = some (.string (some text) :: ts) := by
  rw [quote, List.cons_append, List.cons_append, List.append_assoc]
  exact tokens?_of_token? (by decide) (token?_quote text rest) hrest

lemma tokens?_toString (i : Int) (hbreak : IsBreak rest) (hrest : tokens? rest = some ts) :
    tokens? ((toString i).toList ++ rest) = some (.number :: ts) := by
  obtain ⟨c, text, htext, hc, htoken⟩ := exists_token?_toString i hbreak
  rw [htext, List.cons_append]
  exact tokens?_of_token? hc htoken hrest

end Radius.Json
