/-
# Vendor attributes on the wire

An attribute of type 26 is a header and a payload, and the header says exactly how long the payload
is (`splitHeader_eq_ok_iff`).  A vendor attribute is read from a payload, or from the head of one,
exactly where its sub-type, its length octet and its value stand there (`readTlv_eq_ok_iff`).
Together: a vendor attribute is read from the octets that it is written to and from no others.
-/
import Radius.Proofs.Wire.Attribute
import Radius.VendorSpecific

namespace Radius.VendorSpecific

open Outcome

/-- The attribute of type 26 with a given payload after the vendor's number. -/
def headed (vendor : UInt32) (payload : Octets) : Octets :=
  26 :: UInt8.ofNat (6 + payload.length) :: (Octets.ofNat 4 vendor.toNat ++ payload)

@[simp] lemma length_tlv (v : VendorSpecific) : v.tlv.length = 2 + v.value.length := by
  simp only [tlv, List.length_cons]
  omega

/-- A vendor attribute can be made of every sub-type but 0 and of every value of at most 253
octets. -/
lemma new_eq_ok_iff {vendor : UInt32} {subType : UInt8} {value : Octets} {v : VendorSpecific} :
    new vendor subType value = .ok v ↔
      v.vendor = vendor ∧ v.subType = subType ∧ v.value = value := by
  unfold new
  constructor
  · intro h
    split at h
    · simp at h
    split at h
    · obtain rfl := Except.ok.inj h
      exact ⟨rfl, rfl, rfl⟩
    · simp at h
  · rintro ⟨rfl, rfl, rfl⟩
    rw [dif_neg v.subType_ne_zero, dif_pos (show v.value.length ≤ maxValueLength from v.length_le)]

/-! ### The header -/

lemma splitHeader_headed {vendor : UInt32} {payload : Octets} (hleast : 2 ≤ payload.length)
    (hmost : payload.length ≤ 249) :
    splitHeader (headed vendor payload) = .ok (vendor, payload) := by
  have hlength : (UInt8.ofNat (6 + payload.length)).toNat = 6 + payload.length :=
    Octets.toNat_lengthOctet (by omega)
  have hword : (Octets.ofNat 4 vendor.toNat).length = 4 := Octets.length_ofNat 4 _
  simp only [headed, splitHeader, hlength, List.length_append, hword, headerLength]
  rw [if_neg (by decide), if_neg (by omega), if_neg (by omega), List.take_left' hword,
    List.drop_left' hword, Octets.word_ofNat]

/-- A header is accepted exactly where its length octet counts all octets, of which there are at
least eight. -/
lemma splitHeader_eq_ok_iff {octets payload : Octets} {vendor : UInt32} :
    splitHeader octets = .ok (vendor, payload) ↔
      2 ≤ payload.length ∧ payload.length ≤ 249 ∧ octets = headed vendor payload := by
  constructor
  · intro h
    match octets with
    | [] => simp [splitHeader] at h
    | [type] =>
        simp only [splitHeader] at h
        split at h <;> simp at h
    | type :: declared :: body =>
        simp only [splitHeader] at h
        split at h
        · simp at h
        rename_i htype
        split at h
        · simp at h
        rename_i hdeclared
        split at h
        · simp at h
        rename_i hroom
        simp only [Except.ok.injEq, Prod.mk.injEq] at h
        obtain ⟨rfl, rfl⟩ := h
        rw [Decidable.not_not] at htype hdeclared
        have hlt : declared.toNat < 256 := declared.toNat_lt
        simp only [headerLength] at hroom
        have hword : (body.take 4).length = 4 := by
          rw [List.length_take]
          omega
        have hlength : 6 + (body.length - 4) = declared.toNat := by omega
        refine ⟨by rw [List.length_drop]; omega, by rw [List.length_drop]; omega, ?_⟩
        rw [headed, List.length_drop, hlength, UInt8.ofNat_toNat, Octets.ofNat_word hword,
          List.take_append_drop, htype]
        rfl
  · rintro ⟨hleast, hmost, rfl⟩
    exact splitHeader_headed hleast hmost

/-! ### The vendor's own attributes -/

lemma readTlv_tlv_append (v : VendorSpecific) (rest : Octets) :
    readTlv v.vendor (v.tlv ++ rest) = .ok (v, rest) := by
  have hfits : v.value.length ≤ 253 := v.length_le
  have hlength : (UInt8.ofNat (2 + v.value.length)).toNat = 2 + v.value.length :=
    Octets.toNat_lengthOctet (by omega)
  have hvalue : 2 + v.value.length - 2 = v.value.length := by omega
  simp only [tlv, List.cons_append, readTlv, hlength, hvalue, List.take_left, List.drop_left]
  rw [if_neg (by simp only [List.length_append]; omega), dif_neg v.subType_ne_zero]

/-- A vendor attribute is read at the head of exactly those octets that start with its sub-type, its
length octet and its value. -/
lemma readTlv_eq_ok_iff {vendor : UInt32} {octets rest : Octets} {v : VendorSpecific} :
    readTlv vendor octets = .ok (v, rest) ↔ v.vendor = vendor ∧ octets = v.tlv ++ rest := by
  constructor
  · intro h
    match octets with
    | [] => simp [readTlv] at h
    | [_] => simp [readTlv] at h
    | subType :: declared :: body =>
        simp only [readTlv] at h
        split at h
        · simp at h
        rename_i hroom
        split at h
        · simp at h
        simp only [Except.ok.injEq, Prod.mk.injEq] at h
        obtain ⟨rfl, rfl⟩ := h
        rw [not_or, Nat.not_lt, Nat.not_lt] at hroom
        refine ⟨rfl, ?_⟩
        have hvalue : (body.take (declared.toNat - 2)).length = declared.toNat - 2 := by
          rw [List.length_take]
          omega
        have hlength : 2 + (declared.toNat - 2) = declared.toNat := by omega
        simp only [tlv, hvalue, hlength, UInt8.ofNat_toNat, List.cons_append,
          List.take_append_drop]
  · rintro ⟨rfl, rfl⟩
    exact readTlv_tlv_append v rest

/-! ### Frames of one vendor attribute -/

lemma encode_eq_ok_iff {v : VendorSpecific} {octets : Octets} :
    v.encode = .ok octets ↔
      v.value.length ≤ maxFramedValueLength ∧ octets = headed v.vendor v.tlv := by
  unfold encode toAttribute
  rw [bind_eq_ok_iff]
  by_cases hfits : v.value.length ≤ maxFramedValueLength
  · rw [if_pos hfits]
    have harea : (Octets.ofNat 4 v.vendor.toNat ++ v.tlv).length = 6 + v.value.length := by
      rw [List.length_append, Octets.length_ofNat, length_tlv]
      omega
    simp only [maxFramedValueLength] at hfits
    constructor
    · rintro ⟨a, ha, hwire⟩
      obtain rfl := Except.ok.inj ha
      obtain ⟨-, rfl⟩ := Attribute.encode_eq_ok_iff.1 hwire
      refine ⟨hfits, ?_⟩
      rw [Attribute.length, harea, headed, length_tlv, ← Nat.add_assoc, ← Nat.add_assoc]
      rfl
    · rintro ⟨-, rfl⟩
      refine ⟨_, rfl, Attribute.encode_eq_ok_iff.2 ⟨?_, ?_⟩⟩
      · rw [harea, Attribute.maxValueLength]
        omega
      · rw [Attribute.length, harea, headed, length_tlv, ← Nat.add_assoc, ← Nat.add_assoc]
        rfl
  · rw [if_neg hfits]
    simp [hfits]

/-- A frame holds a single vendor attribute exactly if its payload is that attribute. -/
lemma decode_eq_ok_iff {octets : Octets} {v : VendorSpecific} :
    decode octets = .ok v ↔
      v.value.length ≤ maxFramedValueLength ∧ octets = headed v.vendor v.tlv := by
  unfold decode
  rw [bind_eq_ok_iff]
  constructor
  · rintro ⟨⟨vendor, payload⟩, hheader, h⟩
    obtain ⟨-, hmost, rfl⟩ := splitHeader_eq_ok_iff.1 hheader
    simp only at h
    split at h
    · split at h
      · simp at h
      rename_i subType declared body hwhole
      obtain ⟨⟨v', rest⟩, hread, hv⟩ := bind_eq_ok_iff.1 h
      obtain rfl := Except.ok.inj hv
      obtain ⟨rfl, hpayload⟩ := readTlv_eq_ok_iff.1 hread
      rw [Decidable.not_not] at hwhole
      have hfits : v'.value.length ≤ 253 := v'.length_le
      -- the length octet counts the whole payload, so nothing is left after the attribute
      have hdeclared : declared = UInt8.ofNat (2 + v'.value.length) := by
        simp only [tlv, List.cons_append, List.cons.injEq] at hpayload
        exact hpayload.2.1
      have hrest : rest = [] := by
        have hlength := congrArg List.length hpayload
        rw [List.length_append, length_tlv, ← hwhole, hdeclared,
          Octets.toNat_lengthOctet (by omega)] at hlength
        exact List.length_eq_zero_iff.1 (by omega)
      rw [hpayload, hrest, List.append_nil] at hmost ⊢
      rw [length_tlv] at hmost
      exact ⟨by simp only [maxFramedValueLength]; omega, rfl⟩
    · simp at h
  · rintro ⟨hfits, rfl⟩
    simp only [maxFramedValueLength] at hfits
    refine ⟨(v.vendor, v.tlv), splitHeader_headed ?_ ?_, ?_⟩
    · rw [length_tlv]
      omega
    · rw [length_tlv]
      omega
    · have hread : readTlv v.vendor v.tlv = .ok (v, []) := by
        simpa using readTlv_tlv_append v []
      have hlength : (UInt8.ofNat (2 + v.value.length)).toNat = v.tlv.length := by
        rw [Octets.toNat_lengthOctet (by omega), length_tlv]
      refine (if_neg (not_not_intro hlength)).trans ?_
      rw [hread]
      rfl

/-- **Framing has one form.**  A vendor attribute is read from the octets that it is written to and
from no others; those octets are the header with the vendor's number, the sub-type, the inner length
and the value, of at most 247 octets; and two vendor attributes are never written alike. -/
theorem decode_eq_ok_iff_encode (octets : Octets) (v : VendorSpecific) :
    (decode octets = .ok v ↔ v.encode = .ok octets) ∧
      (v.encode = .ok octets ↔
        v.value.length ≤ 247 ∧
          octets = 26 :: UInt8.ofNat (8 + v.value.length) :: (Octets.ofNat 4 v.vendor.toNat ++
            v.subType :: UInt8.ofNat (2 + v.value.length) :: v.value)) ∧
      ∀ w : VendorSpecific, v.encode = .ok octets → w.encode = .ok octets → v = w := by
  refine ⟨by rw [decode_eq_ok_iff, encode_eq_ok_iff], ?_, ?_⟩
  · have hlength : 6 + v.tlv.length = 8 + v.value.length := by
      rw [length_tlv]
      omega
    rw [encode_eq_ok_iff, headed, hlength]
    rfl
  · intro w hv hw
    have hv' := decode_eq_ok_iff.2 (encode_eq_ok_iff.1 hv)
    have hw' := decode_eq_ok_iff.2 (encode_eq_ok_iff.1 hw)
    rw [hv'] at hw'
    exact Except.ok.inj hw'

end Radius.VendorSpecific
