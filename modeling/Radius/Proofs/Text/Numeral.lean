/-
# Numerals read back

Digits are read as the number that they were written for (`digits?_toDigits`), and so is a number
with its sign (`signed?_toString`).  The decimal form of a number has no blanks, no colons and no
leading zeros, so that it comes whole out of a longer text; and decimal digits without a leading
zero are the form of the number that is read (`eq_toDigits_of_digits?`).
-/
import Mathlib.Data.List.Induction
import Mathlib.Tactic.Lemma
import Mathlib.Tactic.SplitIfs
import Radius.Text.Blank
import Radius.Text.Numeral

namespace Radius.Text

variable {base n : Nat} {text : List Char} {c : Char}

/-! ### Digits -/

lemma digit?_of_lt {base' : Nat} (h : digit? base c = some n) (hn : n < base') :
    digit? base' c = some n := by
  unfold digit? at h ⊢
  rw [Option.filter_eq_some_iff] at h ⊢
  exact ⟨h.1, decide_eq_true hn⟩

lemma digit?_digitChar (hbase : base ≤ 16) (hn : n < base) :
    digit? base (Nat.digitChar n) = some n := by
  have hall : ∀ n : Fin 16, digit? 16 (Nat.digitChar n) = some n.val := by decide
  exact digit?_of_lt (hall ⟨n, Nat.lt_of_lt_of_le hn hbase⟩) hn

lemma digitsFrom?_append_singleton (base n : Nat) (text : List Char) (c : Char) :
    digitsFrom? base n (text ++ [c]) =
      (digitsFrom? base n text).bind fun m => (digit? base c).map (m * base + ·) := by
  induction text generalizing n with
  | nil => cases hc : digit? base c <;> simp [digitsFrom?, hc]
  | cons d rest ih =>
      rw [List.cons_append, digitsFrom?, digitsFrom?]
      cases digit? base d with
      | none => rfl
      | some k => exact ih (n * base + k)

lemma digitsFrom?_toDigits (hbase : 1 < base) (hbase' : base ≤ 16) (n : Nat) :
    digitsFrom? base 0 (Nat.toDigits base n) = some n := by
  induction n using Nat.strongRecOn with
  | ind n ih =>
      by_cases hn : n < base
      · rw [Nat.toDigits_of_lt_base hn, digitsFrom?, digit?_digitChar hbase' hn]
        simp [digitsFrom?]
      · have hle : base ≤ n := Nat.le_of_not_lt hn
        have hlt : n / base < n := Nat.div_lt_self (by omega) hbase
        have hmod : n % base < base := Nat.mod_lt n (by omega)
        rw [Nat.toDigits_of_base_le hbase hle, digitsFrom?_append_singleton, ih _ hlt,
          Option.bind_some, digit?_digitChar hbase' hmod, Option.map_some, Nat.div_add_mod']

/-- The digits of a number are read as the number. -/
lemma digits?_toDigits (hbase : 1 < base) (hbase' : base ≤ 16) (n : Nat) :
    digits? base (Nat.toDigits base n) = some n := by
  cases htext : Nat.toDigits base n with
  | nil => exact absurd htext Nat.toDigits_ne_nil
  | cons c rest =>
      rw [digits?, ← htext]
      exact digitsFrom?_toDigits hbase hbase' n

/-- A numeral has no leading zero unless it is the numeral of zero. -/
lemma head?_toDigits_ne_zero (hbase : 1 < base) (hn : 0 < n) :
    (Nat.toDigits base n).head? ≠ some '0' := by
  induction n using Nat.strongRecOn with
  | ind n ih =>
      by_cases hlt : n < base
      · rw [Nat.toDigits_of_lt_base hlt, List.head?_cons]
        intro hzero
        exact absurd (Nat.digitChar_eq_zero.1 (Option.some.inj hzero)) (by omega)
      · have hle : base ≤ n := Nat.le_of_not_lt hlt
        have hpos : 0 < n / base := Nat.div_pos hle (by omega)
        have hfirst := ih _ (Nat.div_lt_self (by omega) hbase) hpos
        obtain ⟨c, rest, hcons⟩ := List.exists_cons_of_ne_nil (Nat.toDigits_ne_nil (n := n / base))
        rw [hcons] at hfirst
        rw [Nat.toDigits_of_base_le hbase hle, hcons]
        exact hfirst

/-! ### Characters of numerals -/

lemma isSome_digit?_of_isDigit (h : c.isDigit = true) : (digit? 10 c).isSome = true := by
  rw [Char.isDigit_iff_toNat] at h
  have hdigit : '0' ≤ c ∧ c ≤ '9' := h
  rw [digit?, if_pos hdigit, Option.filter_some, if_pos, Option.isSome_some]
  change 48 ≤ c.toNat ∧ c.toNat ≤ 57 at h
  change decide (c.toNat - 48 < 10) = true
  exact decide_eq_true (by omega)

lemma isBlank_of_isDigit (h : c.isDigit = true) : isBlank c = false := by
  rw [Char.isDigit_iff_toNat] at h
  change 48 ≤ c.toNat ∧ c.toNat ≤ 57 at h
  simp [isBlank]
  omega

/-! ### Decimal numbers -/

lemma isDigit_of_mem_decimal (h : c ∈ Nat.toDigits 10 n) : c.isDigit = true :=
  Nat.isDigit_of_mem_toDigits (by decide) (by decide) h

lemma digits?_decimal (n : Nat) : digits? 10 (Nat.toDigits 10 n) = some n :=
  digits?_toDigits (by decide) (by decide) n

lemma eq_digitChar_of_digit? (h : digit? 10 c = some n) : n < 10 ∧ c = Nat.digitChar n := by
  have hworth : ∀ n : Fin 10, (Nat.digitChar n).toNat = 48 + n := by decide
  rw [digit?, Option.filter_eq_some_iff, decide_eq_true_eq] at h
  obtain ⟨h, hlt⟩ := h
  split_ifs at h with hdigit hlower hupper
  · have hle : 48 ≤ c.toNat := hdigit.1
    have hn : c.toNat - 48 = n := Option.some.inj h
    refine ⟨hlt, Char.toNat_inj.1 ?_⟩
    rw [hworth ⟨n, hlt⟩]
    change c.toNat = 48 + n
    omega
  · have hn := Option.some.inj h
    omega
  · have hn := Option.some.inj h
    omega

lemma eq_toDigits_of_digitsFrom? (hne : text ≠ [])
    (hhead : text.head? = some '0' → text.length = 1) (h : digitsFrom? 10 0 text = some n) :
    text = Nat.toDigits 10 n := by
  induction text using List.reverseRecOn generalizing n with
  | nil => exact absurd rfl hne
  | append_singleton before c ih =>
      rw [digitsFrom?_append_singleton, Option.bind_eq_some_iff] at h
      obtain ⟨m, hm, h⟩ := h
      obtain ⟨d, hd, rfl⟩ := Option.map_eq_some_iff.1 h
      obtain ⟨hlt, rfl⟩ := eq_digitChar_of_digit? hd
      cases before with
      | nil =>
          obtain rfl : 0 = m := Option.some.inj hm
          rw [Nat.zero_mul, Nat.zero_add, Nat.toDigits_of_lt_base hlt, List.nil_append]
      | cons first rest =>
          -- the numeral goes on, so that its first digit is no zero
          have hfirst : first ≠ '0' := by
            rintro rfl
            have hlength := hhead rfl
            simp at hlength
          have hbefore : first :: rest = Nat.toDigits 10 m :=
            ih (List.cons_ne_nil first rest) (fun hzero => absurd (Option.some.inj hzero) hfirst) hm
          have hpos : m ≠ 0 := by
            rintro rfl
            rw [Nat.toDigits_zero] at hbefore
            exact hfirst (List.cons.inj hbefore).1
          have hdiv : (m * 10 + d) / 10 = m := by omega
          have hmod : (m * 10 + d) % 10 = d := by omega
          rw [Nat.toDigits_of_base_le (by decide) (by omega : 10 ≤ m * 10 + d), hdiv, hmod, hbefore]

/-- Digits without a leading zero are the numeral of the number that they are read as. -/
lemma eq_toDigits_of_digits? (hhead : text.head? = some '0' → text.length = 1)
    (h : digits? 10 text = some n) : text = Nat.toDigits 10 n := by
  cases text with
  | nil => simp [digits?] at h
  | cons c rest => exact eq_toDigits_of_digitsFrom? (List.cons_ne_nil c rest) hhead h

lemma unsigned?_decimal (n : Nat) : unsigned? 10 (Nat.toDigits 10 n) = some n := by
  unfold unsigned?
  split
  · rename_i rest htext
    exact absurd (isDigit_of_mem_decimal (htext ▸ List.mem_cons_self)) (by decide)
  · exact digits?_decimal n

lemma signed?_decimal (n : Nat) : signed? 10 (Nat.toDigits 10 n) = some (Int.ofNat n) := by
  unfold signed?
  split
  · rename_i rest htext
    exact absurd (isDigit_of_mem_decimal (htext ▸ List.mem_cons_self)) (by decide)
  · rename_i rest htext
    exact absurd (isDigit_of_mem_decimal (htext ▸ List.mem_cons_self)) (by decide)
  · rw [digits?_decimal, Option.map_some]

lemma toList_toString_octet (octet : UInt8) :
    (toString octet).toList = Nat.toDigits 10 octet.toNat := by
  change (toString octet.toNat).toList = _
  rw [Nat.toString_eq_ofList_toDigits, String.toList_ofList]

lemma octet?_toString (octet : UInt8) : octet? (toString octet).toList = some octet := by
  rw [toList_toString_octet, octet?, unsigned?_decimal, Option.filter_some,
    if_pos (decide_eq_true octet.toNat_lt), Option.map_some, UInt8.ofNat_toNat]

/-- A number with its sign is read as the number. -/
lemma signed?_toString (i : Int) : signed? 10 (toString i).toList = some i := by
  rw [Int.toString_eq_repr, Int.repr_eq_if]
  split_ifs with hi
  · rw [Nat.repr_eq_ofList_toDigits, String.toList_ofList, signed?_decimal]
    exact congrArg some (Int.toNat_of_nonneg hi)
  · rw [Nat.repr_eq_ofList_toDigits, String.toList_append, String.toList_ofList,
      String.toList_ofList]
    change (digits? 10 (Nat.toDigits 10 (-i).toNat)).map (fun n => -Int.ofNat n) = some i
    rw [digits?_decimal, Option.map_some]
    have hnat : Int.ofNat (-i).toNat = -i := Int.toNat_of_nonneg (by omega)
    rw [hnat, Int.neg_neg]

lemma isBlank_of_mem_toString {i : Int} (h : c ∈ (toString i).toList) : isBlank c = false := by
  rw [Int.toString_eq_repr, Int.repr_eq_if] at h
  split_ifs at h with hi
  · rw [Nat.repr_eq_ofList_toDigits, String.toList_ofList] at h
    exact isBlank_of_isDigit (isDigit_of_mem_decimal h)
  · rw [Nat.repr_eq_ofList_toDigits, String.toList_append, String.toList_ofList,
      String.toList_ofList, List.mem_append, List.mem_singleton] at h
    rcases h with rfl | h
    · rfl
    · exact isBlank_of_isDigit (isDigit_of_mem_decimal h)

/-! ### Numbers of machine words -/

/-- The numbers of 32 bits are read as signed numerals are. -/
lemma int32?_eq_some_iff {number : Int32} :
    int32? text = some number ↔ signed? 10 text = some number.toInt := by
  have hleast : Int32.minValue.toInt = -0x80000000 := rfl
  have hmost : Int32.maxValue.toInt = 0x7FFFFFFF := rfl
  simp only [int32?, Option.map_eq_some_iff, Option.filter_eq_some_iff, decide_eq_true_eq]
  constructor
  · rintro ⟨n, ⟨hn, hrange⟩, rfl⟩
    rw [hn, Int32.toInt_ofInt_of_le (by omega) (by omega)]
  · intro h
    have hlo := number.le_toInt
    have hhi := number.toInt_lt
    exact ⟨_, ⟨h, by omega⟩, Int32.ofInt_toInt number⟩

/-- The numbers of 64 bits are read as signed numerals are. -/
lemma int64?_eq_some_iff {number : Int64} :
    int64? base text = some number ↔ signed? base text = some number.toInt := by
  have hleast : Int64.minValue.toInt = -0x8000000000000000 := rfl
  have hmost : Int64.maxValue.toInt = 0x7FFFFFFFFFFFFFFF := rfl
  simp only [int64?, Option.map_eq_some_iff, Option.filter_eq_some_iff, decide_eq_true_eq]
  constructor
  · rintro ⟨n, ⟨hn, hrange⟩, rfl⟩
    rw [hn, Int64.toInt_ofInt_of_le (by omega) (by omega)]
  · intro h
    have hlo := number.le_toInt
    have hhi := number.toInt_lt
    exact ⟨_, ⟨h, by omega⟩, Int64.ofInt_toInt number⟩

/-- The unsigned numbers of 32 bits are read as unsigned numerals are. -/
lemma word?_eq_some_iff {word : UInt32} :
    word? text = some word ↔ unsigned? 10 text = some word.toNat := by
  simp only [word?, Option.map_eq_some_iff, Option.filter_eq_some_iff, decide_eq_true_eq]
  constructor
  · rintro ⟨n, ⟨hn, hlt⟩, rfl⟩
    rw [hn, UInt32.toNat_ofNat_of_lt' hlt]
  · intro h
    exact ⟨_, ⟨h, word.toNat_lt⟩, UInt32.ofNat_toNat⟩

/-- What is read without a sign is read with one; there a minus sign is no digit. -/
lemma signed?_of_unsigned? (h : unsigned? base text = some n) :
    signed? base text = some (n : Int) := by
  unfold unsigned? at h
  split at h
  · exact Option.map_eq_some_iff.2 ⟨n, h, rfl⟩
  · rename_i hplus
    unfold signed?
    split
    · rename_i rest
      exact absurd rfl (hplus rest)
    · -- no numeral starts with a minus sign
      cases h
    · exact Option.map_eq_some_iff.2 ⟨n, h, rfl⟩

/-- A positive number is read without a sign. -/
lemma unsigned?_of_signed? {i : Int} (hi : 0 < i) (h : signed? base text = some i) :
    unsigned? base text = some i.toNat := by
  unfold signed? at h
  split at h
  · obtain ⟨n, hn, rfl⟩ := Option.map_eq_some_iff.1 h
    exact hn
  · obtain ⟨n, -, rfl⟩ := Option.map_eq_some_iff.1 h
    have hn := Int.natCast_nonneg n
    exact absurd hi (by simp)
  · rename_i hplus hminus
    obtain ⟨n, hn, rfl⟩ := Option.map_eq_some_iff.1 h
    unfold unsigned?
    split
    · rename_i rest
      exact absurd rfl (hplus rest)
    · exact hn

end Radius.Text
