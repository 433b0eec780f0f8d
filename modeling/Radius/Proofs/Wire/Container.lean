/-
# Several vendor attributes in one frame

An attribute of type 26 may pack several attributes of one vendor.  They are read from its payload
exactly where they stand there one after the other, with nothing before, between or after them
(`readTlvs_eq_ok_iff`).  With the header this gives the grammar of the whole attribute: whoever
knows its octets knows the packed attributes and their order, and the other way round.
-/
import Radius.Proofs.Wire.VendorFrame

namespace Radius.VendorSpecific

open Outcome

/-- What a vendor attribute adds to a payload: its sub-type and its value. -/
def entry (v : VendorSpecific) : UInt8 × Octets :=
  (v.subType, v.value)

/-- The number of octets of vendor attributes that are packed one after the other. -/
def packedLength : List (UInt8 × Octets) → Nat
  | [] => 0
  | (_, value) :: rest => 2 + value.length + packedLength rest

lemma length_le_packedLength {tlv : UInt8 × Octets} {tlvs : List (UInt8 × Octets)}
    (h : tlv ∈ tlvs) : 2 + tlv.2.length ≤ packedLength tlvs := by
  induction tlvs with
  | nil => simp at h
  | cons first rest ih =>
      rw [packedLength]
      rcases List.mem_cons.1 h with rfl | hrest
      · omega
      · have := ih hrest
        omega

lemma length_flatMap_tlv (vs : List VendorSpecific) :
    (vs.flatMap tlv).length = packedLength (vs.map entry) := by
  induction vs with
  | nil => rfl
  | cons v rest ih =>
      rw [List.flatMap_cons, List.length_append, length_tlv, ih]
      rfl

/-! ### The payload -/

@[simp] lemma readTlvs_nil (vendor : UInt32) : readTlvs vendor [] = .ok [] := by
  rw [readTlvs, if_pos rfl]

/-- Reading a payload is reading its first attribute and then the others. -/
lemma readTlvs_of_readTlv {vendor : UInt32} {octets rest : Octets} {v : VendorSpecific}
    (h : readTlv vendor octets = .ok (v, rest)) :
    readTlvs vendor octets = (v :: ·) <$> readTlvs vendor rest := by
  have hne : octets ≠ [] := by
    rintro rfl
    simp [readTlv] at h
  rw [readTlvs, if_neg hne]
  split
  · rename_i e he
    rw [h] at he
    simp at he
  · rename_i v' rest' h'
    rw [h, Except.ok.injEq, Prod.mk.injEq] at h'
    obtain ⟨rfl, rfl⟩ := h'
    rfl

lemma readTlvs_flatMap_tlv {vendor : UInt32} {vs : List VendorSpecific}
    (h : ∀ v ∈ vs, v.vendor = vendor) : readTlvs vendor (vs.flatMap tlv) = .ok vs := by
  induction vs with
  | nil => exact readTlvs_nil vendor
  | cons v rest ih =>
      obtain ⟨hv, hrest⟩ := List.forall_mem_cons.1 h
      rw [List.flatMap_cons, readTlvs_of_readTlv (readTlv_eq_ok_iff.2 ⟨hv, rfl⟩), ih hrest]
      rfl

lemma eq_flatMap_tlv_of_readTlvs {vendor : UInt32} {octets : Octets} {vs : List VendorSpecific}
    (h : readTlvs vendor octets = .ok vs) :
    (∀ v ∈ vs, v.vendor = vendor) ∧ octets = vs.flatMap tlv := by
  fun_induction readTlvs vendor octets generalizing vs with
  | case1 =>
      obtain rfl := Except.ok.inj h
      exact ⟨by simp, rfl⟩
  | case2 octets hne e he => simp at h
  | case3 octets hne v rest hread _ ih =>
      obtain ⟨vs', hvs', rfl⟩ := map_eq_ok_iff.1 h
      obtain ⟨hv, rfl⟩ := readTlv_eq_ok_iff.1 hread
      obtain ⟨hrest, rfl⟩ := ih hvs'
      exact ⟨List.forall_mem_cons.2 ⟨hv, hrest⟩, rfl⟩

/-- A payload holds exactly the attributes that stand in it one after the other. -/
lemma readTlvs_eq_ok_iff {vendor : UInt32} {octets : Octets} {vs : List VendorSpecific} :
    readTlvs vendor octets = .ok vs ↔
      (∀ v ∈ vs, v.vendor = vendor) ∧ octets = vs.flatMap tlv := by
  constructor
  · exact eq_flatMap_tlv_of_readTlvs
  · rintro ⟨hvendor, rfl⟩
    exact readTlvs_flatMap_tlv hvendor

/-! ### The frame -/

lemma decodeAll_eq_ok_iff {octets : Octets} {vs : List VendorSpecific} :
    decodeAll octets = .ok vs ↔
      ∃ vendor, vs ≠ [] ∧ (∀ v ∈ vs, v.vendor = vendor) ∧
        6 + packedLength (vs.map entry) ≤ 255 ∧ octets = headed vendor (vs.flatMap tlv) := by
  unfold decodeAll
  rw [bind_eq_ok_iff]
  constructor
  · rintro ⟨⟨vendor, payload⟩, hheader, hpayload⟩
    obtain ⟨hleast, hmost, rfl⟩ := splitHeader_eq_ok_iff.1 hheader
    obtain ⟨hvendor, rfl⟩ := readTlvs_eq_ok_iff.1 hpayload
    rw [length_flatMap_tlv] at hmost
    refine ⟨vendor, ?_, hvendor, by omega, rfl⟩
    -- the header is accepted only with a payload, and without attributes there would be none
    rintro rfl
    simp at hleast
  · rintro ⟨vendor, hne, hvendor, hfits, rfl⟩
    refine ⟨(vendor, vs.flatMap tlv), splitHeader_headed ?_ ?_, readTlvs_flatMap_tlv hvendor⟩
    · obtain ⟨v, rest, rfl⟩ := List.exists_cons_of_ne_nil hne
      rw [List.flatMap_cons, List.length_append, length_tlv]
      omega
    · rw [length_flatMap_tlv]
      omega

/-- A frame of one vendor attribute packs that one. -/
lemma decodeAll_of_encode {octets : Octets} {v : VendorSpecific} (h : v.encode = .ok octets) :
    decodeAll octets = .ok [v] := by
  obtain ⟨hfits, rfl⟩ := encode_eq_ok_iff.1 h
  have hmost : v.value.length ≤ 247 := hfits
  refine decodeAll_eq_ok_iff.2 ⟨v.vendor, by simp, by simp, ?_, by simp⟩
  simp only [List.map_singleton, packedLength, entry]
  omega

/-- Entries that may stand in a payload are those of vendor attributes. -/
lemma exists_map_entry_eq (vendor : UInt32) {tlvs : List (UInt8 × Octets)}
    (hsub : ∀ tlv ∈ tlvs, tlv.1 ≠ 0) (hfits : ∀ tlv ∈ tlvs, tlv.2.length ≤ 253) :
    ∃ vs : List VendorSpecific, (∀ v ∈ vs, v.vendor = vendor) ∧ vs.map entry = tlvs := by
  induction tlvs with
  | nil => exact ⟨[], by simp, rfl⟩
  | cons first rest ih =>
      obtain ⟨hfirstSub, hrestSub⟩ := List.forall_mem_cons.1 hsub
      obtain ⟨hfirst, hrest⟩ := List.forall_mem_cons.1 hfits
      obtain ⟨vs, hvendor, rfl⟩ := ih hrestSub hrest
      exact ⟨⟨vendor, first.1, first.2, hfirstSub, hfirst⟩ :: vs,
        List.forall_mem_cons.2 ⟨rfl, hvendor⟩, rfl⟩

/-- **A frame of several attributes has one form.**  Vendor attributes are read from octets exactly
if there is at least one, they are of one vendor, and the octets are the type 26, the length of the
whole of at most 255, the vendor's number, and for each attribute in order its sub-type, its length
and its value.  And octets are read at all exactly if they have this form with sub-types other
than 0. -/
theorem decodeAll_eq_ok_iff_packed (octets : Octets) (vs : List VendorSpecific) :
    (decodeAll octets = .ok vs ↔
      ∃ vendor, vs ≠ [] ∧ (∀ v ∈ vs, v.vendor = vendor ∧ v.subType ≠ 0) ∧
        6 + packedLength (vs.map entry) ≤ 255 ∧
        octets = 26 :: UInt8.ofNat (6 + packedLength (vs.map entry)) ::
          (Octets.ofNat 4 vendor.toNat ++
            vs.flatMap fun v => v.subType :: UInt8.ofNat (2 + v.value.length) :: v.value)) ∧
      ((∃ ws, decodeAll octets = .ok ws) ↔
        ∃ vendor : UInt32, ∃ tlvs : List (UInt8 × Octets), tlvs ≠ [] ∧
          (∀ tlv ∈ tlvs, tlv.1 ≠ 0) ∧ 6 + packedLength tlvs ≤ 255 ∧
          octets = 26 :: UInt8.ofNat (6 + packedLength tlvs) :: (Octets.ofNat 4 vendor.toNat ++
            tlvs.flatMap fun tlv => tlv.1 :: UInt8.ofNat (2 + tlv.2.length) :: tlv.2)) := by
  have hheaded : ∀ (vendor : UInt32) (ws : List VendorSpecific),
      headed vendor (ws.flatMap tlv) = 26 :: UInt8.ofNat (6 + packedLength (ws.map entry)) ::
        (Octets.ofNat 4 vendor.toNat ++ ws.flatMap tlv) := by
    intro vendor ws
    rw [headed, length_flatMap_tlv]
  constructor
  · rw [decodeAll_eq_ok_iff]
    constructor
    · rintro ⟨vendor, hne, hvendor, hfits, rfl⟩
      exact ⟨vendor, hne, fun v hv => ⟨hvendor v hv, v.subType_ne_zero⟩, hfits, hheaded vendor vs⟩
    · rintro ⟨vendor, hne, hvendor, hfits, rfl⟩
      exact ⟨vendor, hne, fun v hv => (hvendor v hv).1, hfits, (hheaded vendor vs).symm⟩
  · constructor
    · rintro ⟨ws, h⟩
      obtain ⟨vendor, hne, -, hfits, rfl⟩ := decodeAll_eq_ok_iff.1 h
      refine ⟨vendor, ws.map entry, by simpa using hne, ?_, hfits, ?_⟩
      · intro tlv htlv
        obtain ⟨v, -, rfl⟩ := List.mem_map.1 htlv
        exact v.subType_ne_zero
      · rw [hheaded, List.flatMap_map]
        rfl
    · rintro ⟨vendor, tlvs, hne, hsub, hfits, rfl⟩
      have hvalues : ∀ tlv ∈ tlvs, tlv.2.length ≤ 253 := by
        intro tlv htlv
        have := length_le_packedLength htlv
        omega
      obtain ⟨ws, hvendor, rfl⟩ := exists_map_entry_eq vendor hsub hvalues
      refine ⟨ws, decodeAll_eq_ok_iff.2 ⟨vendor, by simpa using hne, hvendor, hfits, ?_⟩⟩
      rw [hheaded, List.flatMap_map]
      rfl

end Radius.VendorSpecific
