/-
# JSON tokens

The lexical side of reading JSON: brackets, separators, the three words, numbers and strings.
Strings are read up to the meaning of their escapes. An escape may leave one half of a surrogate
pair without the other; such a string is a token, but it is no text.
-/
import Radius.Text.Numeral

namespace Radius.Json

open Text

/-- A token of a JSON document. -/
inductive Token where
  | openArray
  | closeArray
  | openObject
  | closeObject
  | comma
  | colon
  | null
  | bool (value : Bool)
  /-- A number, whatever its value. -/
  | number
  /-- A string; none if an unpaired surrogate keeps it from being text. -/
  | string (content : Option String)
deriving DecidableEq

/-- Whether a character may stand between tokens. -/
def isSpace (c : Char) : Bool :=
  c = ' ' || c = '\t' || c = '\n' || c = '\r'

/-! ### Strings -/

/-- The character that a backslash and a letter stand for. -/
def unescape? : Char → Option Char
  | '"' => some '"'
  | '\\' => some '\\'
  | '/' => some '/'
  | 'b' => some '\x08'
  | 'f' => some '\x0c'
  | 'n' => some '\n'
  | 'r' => some '\r'
  | 't' => some '\t'
  | _ => none

/-- Reads a string after its opening quotation mark: the numbers of its characters, where an escape
may name any number of 16 bits, and what follows the closing mark. -/
def stringUnits? : List Char → Option (List Nat × List Char)
  | [] => none
  | '"' :: rest => some ([], rest)
  | '\\' :: 'u' :: a :: b :: c :: d :: rest => do
    let unit ← digits? 16 [a, b, c, d]
    let (units, rest) ← stringUnits? rest
    return (unit :: units, rest)
  | '\\' :: c :: rest => do
    let c ← unescape? c
    let (units, rest) ← stringUnits? rest
    return (c.toNat :: units, rest)
  | c :: rest =>
    if c.toNat < 0x20 ∨ c = '\\' then none
    else do
      let (units, rest) ← stringUnits? rest
      return (c.toNat :: units, rest)

/-- Whether a number is the first half of a surrogate pair. -/
def isHighSurrogate (unit : Nat) : Bool :=
  decide (0xD800 ≤ unit) && decide (unit ≤ 0xDBFF)

/-- Whether a number is the second half of a surrogate pair. -/
def isLowSurrogate (unit : Nat) : Bool :=
  decide (0xDC00 ≤ unit) && decide (unit ≤ 0xDFFF)

/-- The text of character numbers in which surrogates stand in pairs. -/
def textOfUnits? : List Nat → Option (List Char)
  | [] => some []
  | [unit] =>
    if isHighSurrogate unit || isLowSurrogate unit then none else some [Char.ofNat unit]
  | high :: low :: rest =>
    if isHighSurrogate high then
      if isLowSurrogate low then
        (Char.ofNat (0x10000 + (high - 0xD800) * 0x400 + (low - 0xDC00)) :: ·) <$> textOfUnits? rest
      else none
    else if isLowSurrogate high then none
    else (Char.ofNat high :: ·) <$> textOfUnits? (low :: rest)

/-! ### Numbers -/

/-- What follows a run of one or more decimal digits. -/
def afterDigits? (text : List Char) : Option (List Char) :=
  match text.dropWhile Char.isDigit with
  | rest => if rest.length < text.length then some rest else none

/-- What follows the fraction, if there is one. -/
def afterFraction? : List Char → Option (List Char)
  | '.' :: rest => afterDigits? rest
  | text => some text

/-- What follows a sign, if there is one. -/
def afterSign : List Char → List Char
  | '+' :: rest => rest
  | '-' :: rest => rest
  | text => text

/-- What follows the exponent, if there is one. -/
def afterExponent? : List Char → Option (List Char)
  | 'e' :: rest => afterDigits? (afterSign rest)
  | 'E' :: rest => afterDigits? (afterSign rest)
  | text => some text

/-- What follows a number without its sign. A whole part of more than one digit does not start with
zero. -/
def afterNumber? (text : List Char) : Option (List Char) :=
  match text with
  | '0' :: rest => (afterFraction? rest).bind afterExponent?
  | text => ((afterDigits? text).bind afterFraction?).bind afterExponent?

/-! ### Tokens -/

/-- The token that starts with the character `c`, and what follows it. -/
def token? (c : Char) (rest : List Char) : Option (Token × List Char) :=
  match c, rest with
  | '[', rest => some (.openArray, rest)
  | ']', rest => some (.closeArray, rest)
  | '\x7b', rest => some (.openObject, rest)
  | '\x7d', rest => some (.closeObject, rest)
  | ',', rest => some (.comma, rest)
  | ':', rest => some (.colon, rest)
  | 'n', 'u' :: 'l' :: 'l' :: rest => some (.null, rest)
  | 't', 'r' :: 'u' :: 'e' :: rest => some (.bool true, rest)
  | 'f', 'a' :: 'l' :: 's' :: 'e' :: rest => some (.bool false, rest)
  | '"', rest => do
    let (units, rest) ← stringUnits? rest
    return (.string ((textOfUnits? units).map String.ofList), rest)
  | '-', rest => (afterNumber? rest).map (.number, ·)
  | c, rest => (afterNumber? (c :: rest)).map (.number, ·)

theorem length_le_of_stringUnits? {text rest : List Char} {units : List Nat}
    (h : stringUnits? text = some (units, rest)) : rest.length ≤ text.length := by
  fun_induction stringUnits? text generalizing units rest <;>
    grind [Option.bind_eq_bind, Option.bind_eq_some_iff]

theorem length_lt_of_afterDigits? {text rest : List Char} (h : afterDigits? text = some rest) :
    rest.length < text.length := by
  grind [afterDigits?]

theorem length_le_of_afterFraction? {text rest : List Char} (h : afterFraction? text = some rest) :
    rest.length ≤ text.length := by
  unfold afterFraction? at h
  split at h
  · have := length_lt_of_afterDigits? h
    simp only [List.length_cons]
    omega
  · simp_all

theorem length_afterSign_le (text : List Char) : (afterSign text).length ≤ text.length := by
  unfold afterSign
  split <;> simp

theorem length_le_of_afterExponent? {text rest : List Char} (h : afterExponent? text = some rest) :
    rest.length ≤ text.length := by
  unfold afterExponent? at h
  split at h
  case h_3 => simp_all
  all_goals
    have := length_lt_of_afterDigits? h
    have := length_afterSign_le ‹_›
    simp only [List.length_cons]
    omega

theorem length_lt_of_afterNumber? {text rest : List Char} (h : afterNumber? text = some rest) :
    rest.length < text.length := by
  unfold afterNumber? at h
  split at h
  · obtain ⟨afterPart, hp, he⟩ := Option.bind_eq_some_iff.1 h
    have := length_le_of_afterFraction? hp
    have := length_le_of_afterExponent? he
    simp only [List.length_cons]
    omega
  · obtain ⟨afterPart, h, he⟩ := Option.bind_eq_some_iff.1 h
    obtain ⟨afterWhole, hw, hp⟩ := Option.bind_eq_some_iff.1 h
    have := length_lt_of_afterDigits? hw
    have := length_le_of_afterFraction? hp
    have := length_le_of_afterExponent? he
    omega

theorem length_le_of_token? {c : Char} {text rest : List Char} {token : Token}
    (h : token? c text = some (token, rest)) : rest.length ≤ text.length := by
  unfold token? at h
  split at h
  case h_10 =>
    obtain ⟨⟨units, after⟩, hs, h⟩ := Option.bind_eq_some_iff.1 h
    simp only [Option.pure_def, Option.some.injEq, Prod.mk.injEq] at h
    exact h.2 ▸ length_le_of_stringUnits? hs
  case h_11 =>
    obtain ⟨after, hn, h⟩ := Option.map_eq_some_iff.1 h
    simp only [Prod.mk.injEq] at h
    exact h.2 ▸ Nat.le_of_lt (length_lt_of_afterNumber? hn)
  case h_12 =>
    obtain ⟨after, hn, h⟩ := Option.map_eq_some_iff.1 h
    simp only [Prod.mk.injEq] at h
    have := length_lt_of_afterNumber? hn
    simp only [List.length_cons] at this
    exact h.2 ▸ Nat.le_of_lt_succ this
  all_goals
    simp only [Option.some.injEq, Prod.mk.injEq] at h
    simp only [← h.2, List.length_cons]
    omega

/-- The tokens of a text; none if it is not made of tokens and space. -/
def tokens? (text : List Char) : Option (List Token) :=
  match text with
  | [] => some []
  | c :: rest =>
    if isSpace c then tokens? rest
    else
      match h : token? c rest with
      | none => none
      | some (token, rest') =>
        have := length_le_of_token? h
        (token :: ·) <$> tokens? rest'
termination_by text.length

end Radius.Json
