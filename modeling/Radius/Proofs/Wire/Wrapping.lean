/-
# Vendor attributes as attributes of type 26

A packet carries attributes, so a vendor attribute has to be wrapped in one of type 26 and taken out
again.  Wrapping has one form: a vendor attribute is taken out of exactly the attribute that it is
wrapped in (`ofAttribute_eq_ok_iff`).  Reading an attribute that may hold several goes by the same
octets (`allOfAttribute_eq_decodeAll`), and each of several that were read together can be wrapped
on its own, for together they fit in one frame (`exists_toAttribute_of_mem`).
-/
import Radius.Proofs.Wire.Container

namespace Radius.VendorSpecific

open Outcome

variable {a : Attribute} {v : VendorSpecific} {vs : List VendorSpecific} {wire : Octets}

/-! ### Wrapping -/

lemma toAttribute_eq_ok_iff :
    v.toAttribute = .ok a ↔
      v.value.length ≤ maxFramedValueLength ∧
        a = ⟨26, Octets.ofNat 4 v.vendor.toNat ++ v.tlv⟩ := by
  unfold toAttribute
  by_cases hfits : v.value.length ≤ maxFramedValueLength
  · rw [if_pos hfits, Except.ok.injEq, eq_comm]
    simp [hfits, StandardType.vendorSpecific]
  · rw [if_neg hfits]
    simp [hfits]

lemma toAttribute_eq_error_iff {e : AttributeError} :
    v.toAttribute = .error e ↔
      maxFramedValueLength < v.value.length ∧
        e = .valueTooLong v.value.length maxFramedValueLength := by
  unfold toAttribute
  by_cases hfits : v.value.length ≤ maxFramedValueLength
  · rw [if_pos hfits]
    simp [Nat.not_lt.2 hfits]
  · rw [if_neg hfits, Except.error.injEq, eq_comm]
    simp [Nat.not_le.1 hfits]

/-- The attribute that a vendor attribute is wrapped in has the frame of the vendor attribute. -/
lemma encode_of_toAttribute (h : v.toAttribute = .ok a) : a.encode = v.encode := by
  rw [encode, h]
  rfl

/-- The frame of a vendor attribute, or why it has none. -/
lemma encode_eq (v : VendorSpecific) :
    v.encode =
      if v.value.length ≤ maxFramedValueLength then .ok (headed v.vendor v.tlv)
      else .error (.valueTooLong v.value.length maxFramedValueLength) := by
  by_cases hfits : v.value.length ≤ maxFramedValueLength
  · rw [if_pos hfits, encode_eq_ok_iff.2 ⟨hfits, rfl⟩]
  · have herror := toAttribute_eq_error_iff.2 ⟨Nat.not_le.1 hfits, rfl⟩
    rw [if_neg hfits, encode, herror]
    rfl

/-- What a vendor attribute is wrapped in is its frame without the type and the length. -/
lemma toAttribute_eq_bind_encode (v : VendorSpecific) :
    v.toAttribute = v.encode >>= fun wire => Attribute.new 26 (wire.drop 2) := by
  rw [encode_eq]
  by_cases hfits : v.value.length ≤ maxFramedValueLength
  · have hvalue : (Octets.ofNat 4 v.vendor.toNat ++ v.tlv).length ≤ Attribute.maxValueLength := by
      rw [List.length_append, Octets.length_ofNat, length_tlv]
      simp only [maxFramedValueLength] at hfits
      simp only [Attribute.maxValueLength]
      omega
    rw [if_pos hfits, toAttribute_eq_ok_iff.2 ⟨hfits, rfl⟩]
    exact (if_pos hvalue).symm
  · rw [if_neg hfits, toAttribute_eq_error_iff.2 ⟨Nat.not_le.1 hfits, rfl⟩]
    rfl

/-! ### Taking out -/

lemma frame_eq_ok_iff : frame a = .ok wire ↔ a.type = 26 ∧ a.encode = .ok wire := by
  unfold frame
  by_cases htype : a.type = 26
  · rw [if_neg (not_not_intro (show a.type = StandardType.vendorSpecific from htype))]
    simp [htype]
  · rw [if_pos (show a.type ≠ StandardType.vendorSpecific from htype)]
    simp [htype]

/-- Only attributes of type 26 hold vendor attributes. -/
lemma type_of_allOfAttribute (h : allOfAttribute a = .ok vs) : a.type = 26 := by
  obtain ⟨wire, hframe, -⟩ := bind_eq_ok_iff.1 h
  exact (frame_eq_ok_iff.1 hframe).1

/-- The vendor attributes of an attribute are read from its wire form. -/
lemma allOfAttribute_eq_decodeAll (htype : a.type = 26) (hwire : a.encode = .ok wire) :
    allOfAttribute a = decodeAll wire := by
  rw [allOfAttribute, frame_eq_ok_iff.2 ⟨htype, hwire⟩]
  rfl

/-- A vendor attribute is taken out of exactly the attribute that it is wrapped in. -/
lemma ofAttribute_eq_ok_iff : ofAttribute a = .ok v ↔ v.toAttribute = .ok a := by
  rw [ofAttribute, bind_eq_ok_iff]
  constructor
  · rintro ⟨wire, hframe, hread⟩
    obtain ⟨htype, hwire⟩ := frame_eq_ok_iff.1 hframe
    obtain ⟨hfits, rfl⟩ := decode_eq_ok_iff.1 hread
    obtain ⟨-, hheaded⟩ := Attribute.encode_eq_ok_iff.1 hwire
    -- behind the type and the length stands the value of the attribute
    have hvalue : Octets.ofNat 4 v.vendor.toNat ++ v.tlv = a.value := by
      simp only [headed, List.cons.injEq] at hheaded
      exact hheaded.2.2
    refine toAttribute_eq_ok_iff.2 ⟨hfits, ?_⟩
    rw [hvalue, ← htype]
  · intro h
    obtain ⟨hfits, ha⟩ := toAttribute_eq_ok_iff.1 h
    have hwire : a.encode = .ok (headed v.vendor v.tlv) := by
      rw [encode_of_toAttribute h, encode_eq_ok_iff.2 ⟨hfits, rfl⟩]
    have htype : a.type = 26 := by rw [ha]
    exact ⟨_, frame_eq_ok_iff.2 ⟨htype, hwire⟩, decode_eq_ok_iff.2 ⟨hfits, rfl⟩⟩

/-- An attribute holds a vendor attribute and no other exactly if it is what that one is wrapped
in. -/
lemma allOfAttribute_eq_singleton_iff : allOfAttribute a = .ok [v] ↔ v.toAttribute = .ok a := by
  constructor
  · intro h
    obtain ⟨wire, hframe, hread⟩ := bind_eq_ok_iff.1 h
    obtain ⟨vendor, -, hvendor, hfits, hheaded⟩ := decodeAll_eq_ok_iff.1 hread
    have hv : v.vendor = vendor := hvendor v List.mem_cons_self
    have hlength : v.value.length ≤ maxFramedValueLength := by
      simp only [List.map_singleton, packedLength, entry] at hfits
      simp only [maxFramedValueLength]
      omega
    refine ofAttribute_eq_ok_iff.1 (bind_eq_ok_iff.2 ⟨wire, hframe, ?_⟩)
    refine decode_eq_ok_iff.2 ⟨hlength, ?_⟩
    rw [hheaded, hv, List.flatMap_singleton]
  · intro h
    obtain ⟨hfits, ha⟩ := toAttribute_eq_ok_iff.1 h
    have hwire := encode_eq_ok_iff.2 ⟨hfits, rfl⟩
    have htype : a.type = 26 := by rw [ha]
    rw [allOfAttribute_eq_decodeAll htype ((encode_of_toAttribute h).trans hwire),
      decodeAll_of_encode hwire]

/-- Of the vendor attributes that one attribute holds, each can be wrapped on its own. -/
lemma exists_toAttribute_of_mem (h : allOfAttribute a = .ok vs) (hv : v ∈ vs) :
    ∃ single, v.toAttribute = .ok single := by
  obtain ⟨wire, -, hread⟩ := bind_eq_ok_iff.1 h
  obtain ⟨vendor, -, -, hfits, -⟩ := decodeAll_eq_ok_iff.1 hread
  have hpacked := length_le_packedLength (List.mem_map_of_mem (f := entry) hv)
  simp only [entry] at hpacked
  refine ⟨_, toAttribute_eq_ok_iff.2 ⟨?_, rfl⟩⟩
  simp only [maxFramedValueLength]
  omega

/-- An attribute and a vendor attribute have the same wire form, or the same reason for having none,
exactly if the one wraps the other: the reasons would give different limits. -/
lemma encode_eq_encode_iff : a.encode = v.encode ↔ v.toAttribute = .ok a := by
  constructor
  · intro h
    rw [encode_eq] at h
    split at h
    · rename_i hfits
      obtain ⟨-, hheaded⟩ := Attribute.encode_eq_ok_iff.1 h
      simp only [headed, List.cons.injEq] at hheaded
      refine toAttribute_eq_ok_iff.2 ⟨hfits, ?_⟩
      rw [hheaded.2.2, hheaded.1]
    · unfold Attribute.encode at h
      split at h
      · simp at h
      · simp [Attribute.maxValueLength, maxFramedValueLength] at h
  · exact encode_of_toAttribute

/-- **Wrapping and taking out undo each other.**  An attribute gives a vendor attribute exactly if
it is what that one is wrapped in; this is so exactly if both have the same wire form, and exactly
if the attribute, read as one that may hold several, holds just that one.  What a vendor attribute
is wrapped in is its frame without the type and the length, and the frame is the type 26, the length
of the whole, the vendor's number, the sub-type, the inner length and the value.  A vendor attribute
cannot be wrapped exactly if its value has more than 247 octets, and for this cause. -/
theorem ofAttribute_eq_ok_iff_toAttribute (a : Attribute) (v : VendorSpecific) :
    (ofAttribute a = .ok v ↔ v.toAttribute = .ok a) ∧
      (ofAttribute a = .ok v ↔ a.encode = v.encode) ∧
      (ofAttribute a = .ok v ↔ allOfAttribute a = .ok [v]) ∧
      (v.toAttribute = v.encode >>= fun wire => Attribute.new 26 (wire.drop 2)) ∧
      (v.encode =
        if v.value.length ≤ 247 then
          .ok (26 :: UInt8.ofNat (8 + v.value.length) :: (Octets.ofNat 4 v.vendor.toNat ++
            v.subType :: UInt8.ofNat (2 + v.value.length) :: v.value))
        else .error (.valueTooLong v.value.length 247)) ∧
      ∀ e, v.toAttribute = .error e ↔
        247 < v.value.length ∧ e = .valueTooLong v.value.length 247 := by
  rw [ofAttribute_eq_ok_iff]
  refine ⟨Iff.rfl, encode_eq_encode_iff.symm, allOfAttribute_eq_singleton_iff.symm,
    toAttribute_eq_bind_encode v, ?_, fun e => toAttribute_eq_error_iff⟩
  have hlength : 6 + v.tlv.length = 8 + v.value.length := by
    rw [length_tlv]
    omega
  rw [encode_eq, headed, hlength]
  rfl

end Radius.VendorSpecific
