/-
# What has a wire form

Writing never cuts anything off: an attribute, a vendor attribute or a packet is written whole or not
at all, and it is refused only if a length field could not hold its length.  Of attributes one after
the other, the first without a wire form is the one that writing complains of
(`encodeAll_eq_error_iff`), and where all have one, each stands in the whole at its place
(`encodeAll_append_cons`).
-/
import Radius.Proofs.Wire.Packet
import Radius.Proofs.Wire.Wrapping

namespace Radius

open Outcome

/-! ### Attributes -/

namespace Attribute

variable {a : Attribute} {as before after : List Attribute} {area wire : Octets}
  {e : AttributeError}

lemma exists_encode_iff : (∃ wire, a.encode = .ok wire) ↔ a.value.length ≤ maxValueLength := by
  constructor
  · rintro ⟨wire, h⟩
    exact (encode_eq_ok_iff.1 h).1
  · intro hfits
    exact ⟨_, encode_eq_ok_iff.2 ⟨hfits, rfl⟩⟩

lemma encode_eq_error_iff :
    a.encode = .error e ↔
      maxValueLength < a.value.length ∧ e = .valueTooLong a.value.length maxValueLength := by
  unfold encode
  by_cases hfits : a.value.length ≤ maxValueLength
  · rw [if_pos hfits]
    simp [Nat.not_lt.2 hfits]
  · rw [if_neg hfits, Except.error.injEq, eq_comm]
    simp [Nat.not_le.1 hfits]

/-- The length octet counts the whole attribute, and the value stands behind it. -/
lemma fields_of_encode (h : a.encode = .ok wire) :
    wire[1]?.map UInt8.toNat = some a.length ∧ wire.drop 2 = a.value := by
  obtain ⟨hfits, rfl⟩ := encode_eq_ok_iff.1 h
  refine ⟨congrArg some (Octets.toNat_lengthOctet ?_), rfl⟩
  simp only [maxValueLength] at hfits
  rw [length]
  omega

/-- Attributes have a wire form exactly if each of them has one. -/
lemma exists_encodeAll_iff :
    (∃ area, encodeAll as = .ok area) ↔ ∀ a ∈ as, ∃ wire, a.encode = .ok wire := by
  constructor
  · rintro ⟨area, h⟩ a ha
    exact exists_encode_of_mem h ha
  · intro h
    induction as with
    | nil => exact ⟨[], rfl⟩
    | cons a as ih =>
        obtain ⟨⟨wire, hwire⟩, hrest⟩ := List.forall_mem_cons.1 h
        obtain ⟨area, harea⟩ := ih hrest
        exact ⟨_, encodeAll_cons_eq_ok_iff.2 ⟨wire, area, hwire, harea, rfl⟩⟩

lemma encodeAll_cons_eq_error_iff :
    encodeAll (a :: as) = .error e ↔
      a.encode = .error e ∨ (∃ wire, a.encode = .ok wire) ∧ encodeAll as = .error e := by
  simp only [encodeAll, bind_eq_error_iff]
  constructor
  · rintro (h | ⟨wire, hwire, h | ⟨area, -, h⟩⟩)
    · exact Or.inl h
    · exact Or.inr ⟨⟨wire, hwire⟩, h⟩
    · exact absurd h (by simp [pure, Except.pure])
  · rintro (h | ⟨⟨wire, hwire⟩, h⟩)
    · exact Or.inl h
    · exact Or.inr ⟨wire, hwire, Or.inl h⟩

/-- Attributes are refused for the first that has no wire form. -/
lemma encodeAll_eq_error_iff :
    encodeAll as = .error e ↔
      ∃ before a after, as = before ++ a :: after ∧
        (∀ b ∈ before, ∃ wire, b.encode = .ok wire) ∧ a.encode = .error e := by
  constructor
  · intro h
    induction as with
    | nil => simp [encodeAll] at h
    | cons first rest ih =>
        rcases encodeAll_cons_eq_error_iff.1 h with hfirst | ⟨hwire, hrest⟩
        · exact ⟨[], first, rest, rfl, by simp, hfirst⟩
        · obtain ⟨before, a, after, rfl, hbefore, ha⟩ := ih hrest
          exact ⟨first :: before, a, after, rfl, List.forall_mem_cons.2 ⟨hwire, hbefore⟩, ha⟩
  · rintro ⟨before, a, after, rfl, hbefore, ha⟩
    induction before with
    | nil => exact encodeAll_cons_eq_error_iff.2 (Or.inl ha)
    | cons first before ih =>
        obtain ⟨hwire, hbefore⟩ := List.forall_mem_cons.1 hbefore
        exact encodeAll_cons_eq_error_iff.2 (Or.inr ⟨hwire, ih hbefore⟩)

/-- Each of the attributes stands in the wire form of them all behind those before it. -/
lemma encodeAll_append_cons (h : encodeAll (before ++ a :: after) = .ok area) :
    ∃ wire, a.encode = .ok wire ∧ (area.drop (lengthAll before)).take a.length = wire := by
  induction before generalizing area with
  | nil =>
      obtain ⟨wire, rest, hwire, -, rfl⟩ := encodeAll_cons_eq_ok_iff.1 h
      exact ⟨wire, hwire, List.take_left' (length_of_encode hwire)⟩
  | cons b before ih =>
      obtain ⟨first, rest, hfirst, hrest, rfl⟩ := encodeAll_cons_eq_ok_iff.1 h
      obtain ⟨wire, hwire, hplace⟩ := ih hrest
      refine ⟨wire, hwire, ?_⟩
      rw [lengthAll, ← List.drop_drop, List.drop_left' (length_of_encode hfirst), hplace]

end Attribute

/-! ### Vendor attributes -/

namespace VendorSpecific

variable {v : VendorSpecific} {wire : Octets} {e : AttributeError}

lemma exists_encode_iff :
    (∃ wire, v.encode = .ok wire) ↔ v.value.length ≤ maxFramedValueLength := by
  constructor
  · rintro ⟨wire, h⟩
    exact (encode_eq_ok_iff.1 h).1
  · intro hfits
    exact ⟨_, encode_eq_ok_iff.2 ⟨hfits, rfl⟩⟩

lemma encode_eq_error_iff :
    v.encode = .error e ↔
      maxFramedValueLength < v.value.length ∧
        e = .valueTooLong v.value.length maxFramedValueLength := by
  rw [encode_eq]
  by_cases hfits : v.value.length ≤ maxFramedValueLength
  · rw [if_pos hfits]
    simp [Nat.not_lt.2 hfits]
  · rw [if_neg hfits, Except.error.injEq, eq_comm]
    simp [Nat.not_le.1 hfits]

/-- The outer length octet counts the whole frame and the inner one the vendor's own attribute, and
the value stands behind them. -/
lemma fields_of_encode (h : v.encode = .ok wire) :
    wire.length = v.length ∧ wire[1]?.map UInt8.toNat = some v.length ∧
      wire[7]?.map UInt8.toNat = some (2 + v.value.length) ∧ wire.drop 8 = v.value := by
  obtain ⟨hfits, rfl⟩ := encode_eq_ok_iff.1 h
  simp only [maxFramedValueLength] at hfits
  have hlength : 6 + v.tlv.length = v.length := by
    rw [length_tlv, length, headerLength]
    omega
  refine ⟨?_, ?_, congrArg some (Octets.toNat_lengthOctet (by omega)), rfl⟩
  · rw [headed, List.length_cons, List.length_cons, List.length_append, Octets.length_ofNat]
    omega
  · rw [headed, hlength]
    refine congrArg some (Octets.toNat_lengthOctet ?_)
    rw [length, headerLength]
    omega

end VendorSpecific

/-! ### Packets -/

namespace Packet

variable {p : Packet} {wire : Octets} {e : PacketError}

lemma exists_encode_iff :
    (∃ wire, p.encode = .ok wire) ↔
      p.length ≤ maxLength ∧ ∀ a ∈ p.attributes, ∃ wire, a.encode = .ok wire := by
  rw [← Attribute.exists_encodeAll_iff]
  constructor
  · rintro ⟨wire, h⟩
    obtain ⟨hmost, area, harea, -⟩ := encode_eq_ok_iff.1 h
    exact ⟨hmost, area, harea⟩
  · rintro ⟨hmost, area, harea⟩
    exact ⟨_, encode_eq_ok_iff.2 ⟨hmost, area, harea, rfl⟩⟩

/-- A packet that is too large is refused for this, whatever its attributes are. -/
lemma encode_eq_error_iff :
    p.encode = .error e ↔
      maxLength < p.length ∧ e = .tooLarge p.length ∨
        p.length ≤ maxLength ∧ ∃ cause, Attribute.encodeAll p.attributes = .error cause ∧
          e = .badAttribute cause := by
  unfold encode
  by_cases hmost : maxLength < p.length
  · rw [if_pos hmost]
    simp [hmost, Nat.not_le.2 hmost, eq_comm]
  · rw [if_neg hmost]
    cases harea : Attribute.encodeAll p.attributes with
    | error cause => simp [hmost, Nat.not_lt.1 hmost, eq_comm]
    | ok area => simp [hmost]

/-- Each attribute of a packet stands in its wire form behind the header and those before it. -/
lemma encode_of_attributes {before after : List Attribute} {a : Attribute}
    (h : p.encode = .ok wire) (hp : p.attributes = before ++ a :: after) :
    a.encode = .ok ((wire.drop (20 + Attribute.lengthAll before)).take a.length) := by
  obtain ⟨-, area, harea, rfl⟩ := encode_eq_ok_iff.1 h
  rw [hp] at harea
  obtain ⟨own, hown, hplace⟩ := Attribute.encodeAll_append_cons harea
  have hheader : p.header.length = 20 := p.length_header
  rw [← List.drop_drop, List.drop_left' hheader, hplace, hown]

/-- **Writing cuts nothing off and refuses only what cannot be framed.**  An attribute is written if
its value has at most 253 octets, a vendor attribute if it has at most 247, and a packet if it has at
most 4096 octets and each of its attributes is written.  What is written has as many octets as was
said beforehand, holds the values whole, and every length field in it reads back as the true number.
A packet of more than 4096 octets is refused for its size, whatever its attributes are; otherwise the
first attribute that cannot be written is the cause, with the true length of its value. -/
theorem encode_within_limits (a : Attribute) (v : VendorSpecific) (p : Packet) :
    (((∃ wire, a.encode = .ok wire) ↔ a.value.length ≤ 253) ∧
      (∀ e, a.encode = .error e ↔
        253 < a.value.length ∧ e = .valueTooLong a.value.length 253) ∧
      ∀ wire, a.encode = .ok wire →
        wire.length = a.length ∧ wire[1]?.map UInt8.toNat = some wire.length ∧
          wire.drop 2 = a.value) ∧
    (((∃ wire, v.encode = .ok wire) ↔ v.value.length ≤ 247) ∧
      (∀ e, v.encode = .error e ↔
        247 < v.value.length ∧ e = .valueTooLong v.value.length 247) ∧
      ∀ wire, v.encode = .ok wire →
        wire.length = v.length ∧ wire[1]?.map UInt8.toNat = some wire.length ∧
          wire[7]?.map UInt8.toNat = some (2 + v.value.length) ∧ wire.drop 8 = v.value) ∧
    ((∃ wire, p.encode = .ok wire) ↔
      p.length ≤ 4096 ∧ ∀ b ∈ p.attributes, ∃ wire, b.encode = .ok wire) ∧
    (∀ e, p.encode = .error e ↔
      4096 < p.length ∧ e = .tooLarge p.length ∨
        p.length ≤ 4096 ∧ ∃ before b after, p.attributes = before ++ b :: after ∧
          (∀ c ∈ before, ∃ wire, c.encode = .ok wire) ∧ 253 < b.value.length ∧
          e = .badAttribute (.valueTooLong b.value.length 253)) ∧
    ∀ wire, p.encode = .ok wire →
      wire.length = p.length ∧ Octets.toNat ((wire.drop 2).take 2) = wire.length ∧
        ∀ before b after, p.attributes = before ++ b :: after →
          b.encode = .ok ((wire.drop (20 + Attribute.lengthAll before)).take b.length) := by
  refine ⟨⟨Attribute.exists_encode_iff, fun e => Attribute.encode_eq_error_iff, ?_⟩,
    ⟨VendorSpecific.exists_encode_iff, fun e => VendorSpecific.encode_eq_error_iff, ?_⟩,
    exists_encode_iff, ?_, ?_⟩
  · intro wire h
    obtain ⟨hfield, hvalue⟩ := Attribute.fields_of_encode h
    have hlength := Attribute.length_of_encode h
    exact ⟨hlength, hlength ▸ hfield, hvalue⟩
  · intro wire h
    obtain ⟨hlength, houter, hinner, hvalue⟩ := VendorSpecific.fields_of_encode h
    exact ⟨hlength, hlength ▸ houter, hinner, hvalue⟩
  · intro e
    rw [encode_eq_error_iff]
    refine or_congr_right (and_congr_right fun _ => ⟨?_, ?_⟩)
    · rintro ⟨cause, hcause, rfl⟩
      obtain ⟨before, b, after, hp, hbefore, hb⟩ := Attribute.encodeAll_eq_error_iff.1 hcause
      obtain ⟨hlong, rfl⟩ := Attribute.encode_eq_error_iff.1 hb
      exact ⟨before, b, after, hp, hbefore, hlong, rfl⟩
    · rintro ⟨before, b, after, hp, hbefore, hlong, rfl⟩
      exact ⟨_, Attribute.encodeAll_eq_error_iff.2 ⟨before, b, after, hp, hbefore,
        Attribute.encode_eq_error_iff.2 ⟨hlong, rfl⟩⟩, rfl⟩
  · intro wire h
    have hlength := length_of_encode h
    obtain ⟨hmost, area, -, rfl⟩ := encode_eq_ok_iff.1 h
    refine ⟨hlength, ?_, fun before b after hp => encode_of_attributes h hp⟩
    rw [hlength]
    exact declaredLength_header_append hmost area

/-- Two values that are too long, of which the first is the cause, and what the length fields of a
vendor attribute count. -/
theorem encode_within_limits_first_cause :
    encode ⟨.accessRequest, 5, .zero,
        [⟨18, [7]⟩, ⟨26, List.replicate 254 0⟩, ⟨26, List.replicate 300 0⟩]⟩ =
      .error (.badAttribute (.valueTooLong 254 253)) ∧
    ∃ wire, (VendorSpecific.mk 5 1 [7] (by decide) (by decide)).encode = .ok wire ∧
      wire[1]?.map UInt8.toNat = some 9 ∧ wire[7]?.map UInt8.toNat = some 3 := by
  obtain ⟨-, ⟨hframed, -, hfields⟩, -, hcause, -⟩ := encode_within_limits ⟨18, [7]⟩
    (.mk 5 1 [7] (by decide) (by decide))
    ⟨.accessRequest, 5, .zero,
      [⟨18, [7]⟩, ⟨26, List.replicate 254 0⟩, ⟨26, List.replicate 300 0⟩]⟩
  have hlong : (List.replicate 254 (0 : UInt8)).length = 254 := List.length_replicate
  obtain ⟨wire, hwire⟩ := hframed.2 (by decide)
  obtain ⟨hlength, houter, hinner, -⟩ := hfields wire hwire
  refine ⟨(hcause _).2 (Or.inr ⟨?_, [⟨18, [7]⟩], ⟨26, List.replicate 254 0⟩,
      [⟨26, List.replicate 300 0⟩], rfl, ?_, ?_, ?_⟩), wire, hwire, ?_, hinner⟩
  · simp only [length, headerLength, Attribute.lengthAll, Attribute.length, List.length_replicate,
      List.length_cons, List.length_nil]
    decide
  · intro c hc
    obtain rfl := List.mem_singleton.1 hc
    exact ⟨[18, 3, 7], rfl⟩
  · rw [hlong]
    decide
  · rw [hlong]
  · rw [houter, hlength]
    rfl

end Packet

end Radius
