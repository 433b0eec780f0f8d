/-
# Values on the wire

A value is read as a kind from exactly the octets that a value of the kind is written to: four for a
number or an address, the UTF-8 form for text, any for opaque octets.
-/
import Radius.Proofs.Outcome
import Radius.Proofs.Text.Utf8
import Radius.Proofs.Wire.Field
import Radius.Value

namespace Radius.Value

open Outcome Text

lemma decodeInteger_eq_ok_iff {wire : Octets} {number : Int32} :
    decodeInteger wire = .ok number ↔ encodeInteger number = wire := by
  unfold decodeInteger encodeInteger
  constructor
  · intro h
    split at h
    · rename_i hlength
      obtain rfl := Except.ok.inj h
      rw [UInt32.toUInt32_toInt32]
      exact Octets.ofNat_word hlength
    · simp at h
  · rintro rfl
    rw [if_pos (Octets.length_ofNat 4 _), Octets.word_ofNat, Int32.toInt32_toUInt32]

lemma decodeText_eq_ok_iff {wire : Octets} {content : String} :
    decodeText wire = .ok content ↔ Utf8.encode content.toList = wire := by
  unfold decodeText
  constructor
  · intro h
    split at h
    · rename_i text htext
      obtain rfl := Except.ok.inj h
      rw [String.toList_ofList]
      exact Utf8.decode_eq_ok_iff.1 htext
    · simp at h
  · intro h
    rw [Utf8.decode_eq_ok_iff.2 h]
    simp only [String.ofList_toList]

lemma decodeIpv4_eq_ok_iff {wire : Octets} {address : Ipv4} :
    decodeIpv4 wire = .ok address ↔ address.octets = wire := by
  unfold decodeIpv4
  constructor
  · intro h
    split at h
    · rename_i address' haddress
      obtain rfl := Except.ok.inj h
      exact (Ipv4.ofOctets?_eq_some_iff.1 haddress).symm
    · simp at h
  · rintro rfl
    rw [Ipv4.ofOctets?_eq_some_iff.2 rfl]

/-- A value is read as a kind from exactly the octets that it, being of the kind, is written to. -/
lemma decode_eq_ok_iff {kind : Kind} {wire : Octets} {value : Value} :
    decode kind wire = .ok value ↔ value.kind = kind ∧ value.encode = wire := by
  cases kind with
  | integer =>
      rw [decode, map_eq_ok_iff]
      cases value <;> simp [Value.kind, encode, decodeInteger_eq_ok_iff]
  | text =>
      rw [decode, map_eq_ok_iff]
      cases value <;> simp [Value.kind, encode, decodeText_eq_ok_iff]
  | ipv4 =>
      rw [decode, map_eq_ok_iff]
      cases value <;> simp [Value.kind, encode, decodeIpv4_eq_ok_iff]
  | octets =>
      rw [decode, Except.ok.injEq]
      cases value <;> simp [Value.kind, encode, eq_comm]

end Radius.Value
