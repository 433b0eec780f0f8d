/-
# The octets of values

Every kind of value is read from exactly the octets that a value of the kind is written to: a number
or an address from four octets, text from UTF-8, opaque octets from any, and a counter from eight.
What is written is said without the writer (`Value.HasForm`): the octets of a number are its two's
complement, most significant first (`encodeInteger_eq_iff`), and those of text the UTF-8 of the
string (`toByteArray_encode`).
-/
import Mathlib.Data.List.Basic
import Radius.Proofs.Value

namespace Radius

open Text

/-- The octets that hold a value of a kind. -/
def Kind.Holds : Kind → Octets → Prop
  | .integer, wire => wire.length = 4
  | .text, wire => wire.toByteArray.IsValidUTF8
  | .ipv4, wire => wire.length = 4
  | .octets, _ => True

namespace Value

/-- The octets that stand for a value. -/
def HasForm : Value → Octets → Prop
  | integer number, wire => wire.length = 4 ∧ number.toInt % 0x100000000 = wire.toNat
  | text content, wire => wire.toByteArray = content.toUTF8
  | ipv4 address, wire =>
    wire = [address.first, address.second, address.third, address.fourth]
  | octets content, wire => wire = content

variable {kind : Kind} {wire : Octets}

/-! ### Numbers and counters -/

/-- A number is congruent to the word that has its bits. -/
lemma toInt_emod (number : Int32) : number.toInt % 0x100000000 = number.toUInt32.toNat := by
  have hint : number.toInt = number.toBitVec.toInt := rfl
  have hnat : number.toUInt32.toNat = number.toBitVec.toNat := rfl
  have hcases := BitVec.toInt_eq_toNat_cond number.toBitVec
  have hlt : number.toBitVec.toNat < 2 ^ 32 := number.toBitVec.isLt
  rw [hint, hnat]
  split at hcases <;> omega

lemma encodeInteger_eq_iff {number : Int32} :
    encodeInteger number = wire ↔ wire.length = 4 ∧ number.toInt % 0x100000000 = wire.toNat := by
  have hfield : number.toUInt32.toNat < Octets.capacity 4 := number.toUInt32.toNat_lt
  rw [encodeInteger, Octets.ofNat_eq_iff hfield, toInt_emod, Int.natCast_inj,
    eq_comm (a := wire.toNat)]

lemma encodeCounter_eq_iff {count : UInt64} :
    encodeCounter count = wire ↔ wire.length = 8 ∧ count.toNat = wire.toNat := by
  have hfield : count.toNat < Octets.capacity 8 := count.toNat_lt
  rw [encodeCounter, Octets.ofNat_eq_iff hfield, eq_comm (a := wire.toNat)]

lemma decodeCounter_eq_ok_iff {count : UInt64} :
    decodeCounter wire = .ok count ↔ encodeCounter count = wire := by
  rw [encodeCounter_eq_iff, decodeCounter]
  split_ifs with hlength
  · have hlt : wire.toNat < 2 ^ 64 := by
      have hfield := Octets.toNat_lt wire
      rw [hlength] at hfield
      exact hfield
    rw [Except.ok.injEq, ← UInt64.toNat_inj, UInt64.toNat_ofNat_of_lt' hlt, and_iff_right hlength,
      eq_comm]
  · simp [hlength]

/-! ### Text -/

/-- Text is written to the UTF-8 of the string. -/
lemma toByteArray_encode (content : String) :
    (Utf8.encode content.toList).toByteArray = content.toUTF8 := by
  rw [String.toUTF8_eq_toByteArray, ← String.utf8Encode_toList, List.utf8Encode, Utf8.encode]

lemma toByteArray_inj {octets octets' : Octets} :
    octets.toByteArray = octets'.toByteArray ↔ octets = octets' := by
  constructor
  · intro h
    have hdata := congrArg (fun bytes : ByteArray => bytes.data.toList) h
    simpa using hdata
  · rintro rfl
    rfl

lemma exists_utf8Encode_eq_iff :
    (∃ content : String, Utf8.encode content.toList = wire) ↔ wire.toByteArray.IsValidUTF8 := by
  constructor
  · rintro ⟨content, rfl⟩
    rw [toByteArray_encode, String.toUTF8_eq_toByteArray]
    exact content.isValidUTF8
  · intro h
    -- valid octets are a string already
    refine ⟨⟨wire.toByteArray, h⟩, ?_⟩
    rw [← toByteArray_inj, toByteArray_encode, String.toUTF8_eq_toByteArray]

/-! ### Values -/

/-- A value is written to the octets that stand for it. -/
lemma encode_eq_iff {value : Value} : value.encode = wire ↔ value.HasForm wire := by
  cases value with
  | integer number => exact encodeInteger_eq_iff
  | text content =>
      rw [encode, HasForm, ← toByteArray_encode, toByteArray_inj, eq_comm]
  | ipv4 address => exact eq_comm
  | octets content => exact eq_comm

/-- A kind of value is written to all octets that hold one. -/
lemma exists_encode_eq_iff :
    (∃ value : Value, value.kind = kind ∧ value.encode = wire) ↔ kind.Holds wire := by
  cases kind with
  | integer =>
      constructor
      · rintro ⟨value, hkind, rfl⟩
        cases value <;> simp [Value.kind, Kind.Holds, encode, encodeInteger] at hkind ⊢
      · intro hlength
        have hread : decodeInteger wire = .ok _ := if_pos hlength
        exact ⟨integer _, rfl, decodeInteger_eq_ok_iff.1 hread⟩
  | text =>
      rw [Kind.Holds, ← exists_utf8Encode_eq_iff]
      constructor
      · rintro ⟨value, hkind, rfl⟩
        cases value <;> simp [Value.kind, encode] at hkind ⊢
      · rintro ⟨content, hcontent⟩
        exact ⟨text content, rfl, hcontent⟩
  | ipv4 =>
      constructor
      · rintro ⟨value, hkind, rfl⟩
        cases value <;> simp [Value.kind, Kind.Holds, encode, Ipv4.octets] at hkind ⊢
      · intro hlength
        obtain ⟨first, second, third, fourth, rfl⟩ := List.length_eq_four.1 hlength
        exact ⟨ipv4 ⟨first, second, third, fourth⟩, rfl, rfl⟩
  | octets =>
      exact ⟨fun _ => trivial, fun _ => ⟨octets wire, rfl, rfl⟩⟩

/-- **Values are read from exactly the octets that they are written to.**  Octets are read as a
value of a kind if and only if the value is of the kind and is written to these octets, and as a
counter if and only if the counter is written to them.  So a number or an address is read from any
four octets, text from valid UTF-8, opaque octets from any octets, a counter from any eight, and
nothing else is read.  A number is written to its two's complement and a counter to itself, most
significant octet first, text to its UTF-8, an address and opaque octets to themselves. -/
theorem decode_exactly_encodings (kind : Kind) (wire : Octets) :
    (∀ value, decode kind wire = .ok value ↔ value.kind = kind ∧ value.encode = wire) ∧
      (∀ count, decodeCounter wire = .ok count ↔ encodeCounter count = wire) ∧
      ((∃ value, decode kind wire = .ok value) ↔ kind.Holds wire) ∧
      ((∃ count, decodeCounter wire = .ok count) ↔ wire.length = 8) ∧
      (∀ value : Value, value.encode = wire ↔ value.HasForm wire) ∧
      ∀ count, encodeCounter count = wire ↔ wire.length = 8 ∧ count.toNat = wire.toNat := by
  refine ⟨fun value => decode_eq_ok_iff, fun count => decodeCounter_eq_ok_iff, ?_, ?_,
    fun value => encode_eq_iff, fun count => encodeCounter_eq_iff⟩
  · simp only [decode_eq_ok_iff]
    exact exists_encode_eq_iff
  · constructor
    · rintro ⟨count, h⟩
      exact (encodeCounter_eq_iff.1 (decodeCounter_eq_ok_iff.1 h)).1
    · intro hlength
      exact ⟨_, if_pos hlength⟩

end Value

end Radius
