/-
# Fields of a fixed width

A number in a field of the wire and the number as the program holds it are the same thing as long as
the number fits: writing and then reading gives the number back, and reading and then writing gives
the octets back.
-/
import Mathlib.Tactic.Lemma
import Radius.Octets

namespace Radius.Octets

/-- A number that fits in a field survives it. -/
lemma toNat_ofNat_of_lt {width n : Nat} (h : n < capacity width) : toNat (ofNat width n) = n := by
  rw [toNat_ofNat, Nat.mod_eq_of_lt h]

/-- Octets are the field of a number exactly if they are as many as the field has and spell it. -/
lemma ofNat_eq_iff {width n : Nat} {octets : Octets} (h : n < capacity width) :
    ofNat width n = octets ↔ octets.length = width ∧ toNat octets = n := by
  constructor
  · rintro rfl
    exact ⟨length_ofNat width n, toNat_ofNat_of_lt h⟩
  · rintro ⟨rfl, rfl⟩
    exact ofNat_toNat octets

/-- Four octets are the field of the word they spell. -/
lemma ofNat_word {octets : Octets} (h : octets.length = 4) :
    ofNat 4 (UInt32.ofNat (toNat octets)).toNat = octets := by
  have hlt : toNat octets < 2 ^ 32 := by
    have := toNat_lt octets
    rw [h] at this
    exact this
  rw [UInt32.toNat_ofNat_of_lt' hlt, ← h, ofNat_toNat]

/-- A word survives a field of four octets. -/
lemma word_ofNat (word : UInt32) : UInt32.ofNat (toNat (ofNat 4 word.toNat)) = word := by
  rw [toNat_ofNat_of_lt (show word.toNat < capacity 4 from word.toNat_lt), UInt32.ofNat_toNat]

/-- A length that fits in one octet is read back from it. -/
lemma toNat_lengthOctet {n : Nat} (h : n < 256) : (UInt8.ofNat n).toNat = n :=
  UInt8.toNat_ofNat_of_lt' h

end Radius.Octets
