/-
# Numbers in decimal digits

What a number in decimal digits is, said without the readers: one or more of the digits 0 to 9 after
at most one sign (`IsDecimal`), where the last digit counts one and every other one ten times as
much as the next (`decimal`).  The reader of signed numerals reads these numbers and nothing else
(`signed?_eq_some_iff`).
-/
import Mathlib.Data.Nat.Digits.Defs
import Radius.Proofs.Text.Numeral

namespace Radius.Text

/-- The number that decimal digits spell. -/
def decimal (digits : List Char) : Nat :=
  Nat.ofDigits 10 (digits.reverse.map fun c => c.toNat - '0'.toNat)

/-- How numbers are written in decimal digits. -/
inductive IsDecimal : List Char → Int → Prop
  | plain {digits : List Char} (hne : digits ≠ []) (hdigits : ∀ c ∈ digits, c.isDigit = true) :
      IsDecimal digits (decimal digits)
  | plus {digits : List Char} (hne : digits ≠ []) (hdigits : ∀ c ∈ digits, c.isDigit = true) :
      IsDecimal ('+' :: digits) (decimal digits)
  | minus {digits : List Char} (hne : digits ≠ []) (hdigits : ∀ c ∈ digits, c.isDigit = true) :
      IsDecimal ('-' :: digits) (-decimal digits)

variable {text : List Char} {c : Char} {n : Nat}

/-! ### Digits -/

lemma digit?_decimal_eq_some_iff :
    digit? 10 c = some n ↔ c.isDigit = true ∧ n = c.toNat - '0'.toNat := by
  have hworth : ∀ n : Fin 10, (Nat.digitChar n).isDigit = true ∧
      n.val = (Nat.digitChar n).toNat - '0'.toNat := by decide
  constructor
  · intro h
    obtain ⟨hlt, rfl⟩ := eq_digitChar_of_digit? h
    exact hworth ⟨n, hlt⟩
  · rintro ⟨hdigit, rfl⟩
    obtain ⟨m, hm⟩ := Option.isSome_iff_exists.1 (isSome_digit?_of_isDigit hdigit)
    obtain ⟨hlt, rfl⟩ := eq_digitChar_of_digit? hm
    rw [hm, ← (hworth ⟨m, hlt⟩).2]

@[simp] lemma decimal_nil : decimal [] = 0 := rfl

/-- One more digit makes what stands before it count ten times as much. -/
lemma decimal_append_singleton (digits : List Char) (c : Char) :
    decimal (digits ++ [c]) = decimal digits * 10 + (c.toNat - '0'.toNat) := by
  rw [decimal, List.reverse_append, List.reverse_singleton, List.singleton_append, List.map_cons,
    Nat.ofDigits_cons, ← decimal, Nat.add_comm, Nat.mul_comm]

/-- The reader goes from the first digit to the last, so the induction takes the last one off. -/
lemma digitsFrom?_eq_some_iff :
    digitsFrom? 10 0 text = some n ↔ (∀ c ∈ text, c.isDigit = true) ∧ n = decimal text := by
  induction text using List.reverseRecOn generalizing n with
  | nil =>
      rw [digitsFrom?, Option.some.injEq, decimal_nil, eq_comm, and_iff_right (by simp)]
  | append_singleton before c ih =>
      rw [digitsFrom?_append_singleton, Option.bind_eq_some_iff, decimal_append_singleton]
      simp only [ih, Option.map_eq_some_iff, digit?_decimal_eq_some_iff, List.mem_append,
        List.mem_singleton]
      constructor
      · rintro ⟨m, ⟨hbefore, rfl⟩, d, ⟨hc, rfl⟩, rfl⟩
        refine ⟨?_, rfl⟩
        rintro e (he | rfl)
        · exact hbefore e he
        · exact hc
      · rintro ⟨hall, rfl⟩
        exact ⟨_, ⟨fun e he => hall e (.inl he), rfl⟩, _, ⟨hall c (.inr rfl), rfl⟩, rfl⟩

lemma digits?_eq_some_iff :
    digits? 10 text = some n ↔
      text ≠ [] ∧ (∀ c ∈ text, c.isDigit = true) ∧ n = decimal text := by
  cases text with
  | nil => simp [digits?]
  | cons c rest =>
      rw [digits?, digitsFrom?_eq_some_iff, and_iff_right (List.cons_ne_nil c rest)]

/-! ### Signs -/

/-- The reader of numerals reads what is a number in decimal digits, and nothing else. -/
lemma signed?_eq_some_iff {n : Int} : signed? 10 text = some n ↔ IsDecimal text n := by
  constructor
  · intro h
    unfold signed? at h
    split at h
    · obtain ⟨m, hm, rfl⟩ := Option.map_eq_some_iff.1 h
      obtain ⟨hne, hdigits, rfl⟩ := digits?_eq_some_iff.1 hm
      exact .plus hne hdigits
    · obtain ⟨m, hm, rfl⟩ := Option.map_eq_some_iff.1 h
      obtain ⟨hne, hdigits, rfl⟩ := digits?_eq_some_iff.1 hm
      exact .minus hne hdigits
    · obtain ⟨m, hm, rfl⟩ := Option.map_eq_some_iff.1 h
      obtain ⟨hne, hdigits, rfl⟩ := digits?_eq_some_iff.1 hm
      exact .plain hne hdigits
  · rintro (⟨hne, hdigits⟩ | ⟨hne, hdigits⟩ | ⟨hne, hdigits⟩)
    · -- a sign is no digit, so the text is not read as one with a sign
      unfold signed?
      split
      · exact absurd (hdigits '+' List.mem_cons_self) (by decide)
      · exact absurd (hdigits '-' List.mem_cons_self) (by decide)
      · exact Option.map_eq_some_iff.2 ⟨_, digits?_eq_some_iff.2 ⟨hne, hdigits, rfl⟩, rfl⟩
    · exact Option.map_eq_some_iff.2 ⟨_, digits?_eq_some_iff.2 ⟨hne, hdigits, rfl⟩, rfl⟩
    · exact Option.map_eq_some_iff.2 ⟨_, digits?_eq_some_iff.2 ⟨hne, hdigits, rfl⟩, rfl⟩

end Radius.Text
