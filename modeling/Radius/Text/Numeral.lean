/-
# Numerals

Digits, unsigned numerals and signed numerals in a base of at most sixteen. A numeral has at least
one digit, may start with zeros and has no other characters than its digits and one leading sign.
-/

namespace Radius.Text

/-- The worth of a digit of the given base, in either letter case. -/
def digit? (base : Nat) (c : Char) : Option Nat :=
  let worth : Option Nat :=
    if '0' ≤ c ∧ c ≤ '9' then some (c.toNat - '0'.toNat)
    else if 'a' ≤ c ∧ c ≤ 'f' then some (c.toNat - 'a'.toNat + 10)
    else if 'A' ≤ c ∧ c ≤ 'F' then some (c.toNat - 'A'.toNat + 10)
    else none
  worth.filter (· < base)

/-- The number that digits spell after the digits of `n`; none if one of them is no digit. -/
def digitsFrom? (base n : Nat) : List Char → Option Nat
  | [] => some n
  | c :: rest => (digit? base c).bind fun d => digitsFrom? base (n * base + d) rest

/-- The number that one or more digits spell. -/
def digits? (base : Nat) : List Char → Option Nat
  | [] => none
  | c :: rest => digitsFrom? base 0 (c :: rest)

/-- Reads a numeral that may have a plus sign. -/
def unsigned? (base : Nat) : List Char → Option Nat
  | '+' :: rest => digits? base rest
  | text => digits? base text

/-- Reads a numeral that may have a plus or a minus sign. -/
def signed? (base : Nat) : List Char → Option Int
  | '+' :: rest => (digits? base rest).map Int.ofNat
  | '-' :: rest => (digits? base rest).map fun n => -Int.ofNat n
  | text => (digits? base text).map Int.ofNat

/-- Reads an unsigned decimal numeral of at most 8 bits. -/
def octet? (text : List Char) : Option UInt8 :=
  ((unsigned? 10 text).filter (· < UInt8.size)).map UInt8.ofNat

/-- Reads an unsigned decimal numeral of at most 32 bits. -/
def word? (text : List Char) : Option UInt32 :=
  ((unsigned? 10 text).filter (· < UInt32.size)).map UInt32.ofNat

/-- Reads a signed decimal numeral of at most 32 bits. -/
def int32? (text : List Char) : Option Int32 :=
  ((signed? 10 text).filter fun n => Int32.minValue.toInt ≤ n ∧ n ≤ Int32.maxValue.toInt).map
    Int32.ofInt

/-- Reads a signed numeral of at most 64 bits. -/
def int64? (base : Nat) (text : List Char) : Option Int64 :=
  ((signed? base text).filter fun n => Int64.minValue.toInt ≤ n ∧ n ≤ Int64.maxValue.toInt).map
    Int64.ofInt

end Radius.Text
