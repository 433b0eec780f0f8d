/-
# Packets on the wire

A packet is read from exactly those octets that start with its wire form; what follows is padding.
Which octets are the start of a packet can be said without reading them (`Readable`): the code is
known, the length field lies within its limits and within the octets that are there, and attributes
tile what it leaves for them.
-/
import Radius.Packet
import Radius.Proofs.Wire.Attribute

namespace Radius.Packet

/-- The octets before the attributes. -/
def header (p : Packet) : Octets :=
  p.code.toUInt8 :: p.identifier :: Octets.ofNat 2 p.length ++ p.authenticator.octets

/-- The number in the length field of a packet that octets start with. -/
def declaredLength (octets : Octets) : Nat :=
  Octets.toNat ((octets.drop 2).take 2)

/-- The octets that the length field leaves for attributes. -/
def attributeArea (octets : Octets) : Octets :=
  (octets.drop headerLength).take (declaredLength octets - headerLength)

/-- Octets that start with a packet, by their fields. -/
structure Readable (octets : Octets) : Prop where
  /-- The header is there. -/
  headerLength_le : headerLength ≤ octets.length
  /-- The first octet is the code of a packet type. -/
  code_known : ∃ code : Code, octets.head? = some code.toUInt8
  /-- The length field counts the header at least. -/
  least_le : headerLength ≤ declaredLength octets
  /-- The length field does not exceed the limit. -/
  le_most : declaredLength octets ≤ maxLength
  /-- All octets that the length field counts are there. -/
  declared_le : declaredLength octets ≤ octets.length
  /-- Length octets of at least two tile the octets after the header exactly. -/
  tiled : Attribute.Tiled (attributeArea octets)

@[simp] lemma length_header (p : Packet) : p.header.length = headerLength := by
  simp only [header, List.length_append, List.length_cons, Octets.length_ofNat,
    p.authenticator.length_eq, headerLength]

/-! ### Writing -/

/-- What a packet is written to, and when it is written at all. -/
lemma encode_eq_ok_iff {p : Packet} {wire : Octets} :
    p.encode = .ok wire ↔
      p.length ≤ maxLength ∧
        ∃ area, Attribute.encodeAll p.attributes = .ok area ∧ wire = p.header ++ area := by
  unfold encode
  by_cases hmost : maxLength < p.length
  · rw [if_pos hmost]
    simp [Nat.not_le.2 hmost]
  · rw [if_neg hmost]
    rw [Nat.not_lt] at hmost
    cases harea : Attribute.encodeAll p.attributes with
    | error e => simp
    | ok area => simp [hmost, header, eq_comm]

lemma length_header_append {p : Packet} {area : Octets}
    (harea : Attribute.encodeAll p.attributes = .ok area) :
    (p.header ++ area).length = p.length := by
  rw [List.length_append, length_header, Attribute.length_of_encodeAll harea, length]

lemma length_of_encode {p : Packet} {wire : Octets} (h : p.encode = .ok wire) :
    wire.length = p.length := by
  obtain ⟨-, area, harea, rfl⟩ := encode_eq_ok_iff.1 h
  exact length_header_append harea

/-- The length field reads back as the number of octets that the packet takes. -/
lemma declaredLength_header_append {p : Packet} (hmost : p.length ≤ maxLength) (rest : Octets) :
    declaredLength (p.header ++ rest) = p.length := by
  have hfield : ((p.header ++ rest).drop 2).take 2 = Octets.ofNat 2 p.length := by
    simp only [header, List.cons_append, List.append_assoc, List.drop_succ_cons, List.drop_zero]
    exact List.take_left' (Octets.length_ofNat 2 _)
  rw [declaredLength, hfield]
  exact Octets.toNat_ofNat_of_lt (Nat.lt_of_le_of_lt hmost (by decide))

/-! ### Reading -/

/-- A packet is read back from its header, its attributes and whatever follows. -/
lemma decode_header_append {p : Packet} {area : Octets} (hmost : p.length ≤ maxLength)
    (harea : Attribute.encodeAll p.attributes = .ok area) (rest : Octets) :
    decode (p.header ++ (area ++ rest)) = .ok p := by
  have hdeclared := declaredLength_header_append hmost (area ++ rest)
  have hlength := length_header_append harea
  rw [List.length_append, length_header] at hlength
  have hauthenticator := p.authenticator.length_eq
  obtain ⟨high, low, hfield⟩ : ∃ high low, Octets.ofNat 2 p.length = [high, low] :=
    ⟨_, _, rfl⟩
  have hword : Octets.toNat [high, low] = p.length := by
    rw [← hdeclared, declaredLength, header, hfield]
    rfl
  have harea' : (area ++ rest).take (p.length - headerLength) = area :=
    List.take_left' (by omega)
  simp only [header, hfield, List.cons_append, List.nil_append, decode, hword,
    Code.ofUInt8?_toUInt8, List.drop_left' hauthenticator, List.take_left' hauthenticator, harea',
    Attribute.decodeAll_of_encodeAll harea]
  have hlimits : ¬(p.length < headerLength ∨ maxLength < p.length) := by omega
  simp only [headerLength] at hlength
  rw [dif_neg (by rw [List.length_append]; omega), if_neg hlimits,
    if_neg (by simp only [List.length_cons, List.length_append]; omega)]

/-- The octets that a packet was read from: its header, its attributes, and padding. -/
lemma eq_of_decode {octets : Octets} {p : Packet} (h : decode octets = .ok p) :
    p.length ≤ maxLength ∧ ∃ area rest, Attribute.encodeAll p.attributes = .ok area ∧
      octets = p.header ++ (area ++ rest) := by
  match octets with
  | [] => simp [decode] at h
  | [_] => simp [decode] at h
  | [_, _] => simp [decode] at h
  | [_, _, _] => simp [decode] at h
  | code :: identifier :: high :: low :: body =>
      simp only [decode] at h
      split at h
      · simp at h
      rename_i henough
      split at h
      · simp at h
      rename_i known hcode
      split at h
      · simp at h
      rename_i hlimits
      split at h
      · simp at h
      rename_i hroom
      split at h
      · simp at h
      rename_i attributes hattributes
      obtain rfl := Except.ok.inj h
      have harea := Attribute.encodeAll_of_decodeAll hattributes
      have hlength := Attribute.length_of_encodeAll harea
      simp only [List.length_take, List.length_drop] at hlength
      simp only [List.length_cons, headerLength, maxLength] at hlength hlimits hroom
      have htotal : headerLength + Attribute.lengthAll attributes = Octets.toNat [high, low] := by
        simp only [headerLength]
        omega
      have hfield : Octets.ofNat 2 (Octets.toNat [high, low]) = [high, low] :=
        Octets.ofNat_toNat [high, low]
      refine ⟨by simp only [length, htotal, maxLength]; omega, _,
        (body.drop 16).drop (Octets.toNat [high, low] - headerLength), harea, ?_⟩
      simp only [header, length, htotal, hfield, Code.toUInt8_of_ofUInt8? hcode, List.cons_append,
        List.nil_append, List.take_append_drop]

lemma decode_of_encode {p : Packet} {wire : Octets} (h : p.encode = .ok wire) (rest : Octets) :
    decode (wire ++ rest) = .ok p := by
  obtain ⟨hmost, area, harea, rfl⟩ := encode_eq_ok_iff.1 h
  rw [List.append_assoc]
  exact decode_header_append hmost harea rest

/-- What is read is written to the octets that the length field counts. -/
lemma encode_of_decode {octets : Octets} {p : Packet} (h : decode octets = .ok p) :
    p.encode = .ok (octets.take (declaredLength octets)) := by
  obtain ⟨hmost, area, rest, harea, rfl⟩ := eq_of_decode h
  refine encode_eq_ok_iff.2 ⟨hmost, area, harea, ?_⟩
  rw [declaredLength_header_append hmost, ← List.append_assoc]
  exact List.take_left' (length_header_append harea)

/-! ### What can be read -/

lemma readable_of_decode {octets : Octets} {p : Packet} (h : decode octets = .ok p) :
    Readable octets := by
  obtain ⟨hmost, area, rest, harea, rfl⟩ := eq_of_decode h
  have hlength := length_header_append harea
  rw [List.length_append, length_header] at hlength
  have hdeclared := declaredLength_header_append hmost (area ++ rest)
  refine ⟨?_, ⟨p.code, rfl⟩, ?_, ?_, ?_, ?_⟩
  · rw [List.length_append, length_header]
    omega
  · omega
  · rw [hdeclared]
    exact hmost
  · rw [hdeclared, List.length_append, List.length_append, length_header]
    omega
  · have hlast : area.length = p.length - headerLength := by omega
    rw [attributeArea, hdeclared, List.drop_left' p.length_header, List.take_left' hlast]
    exact Attribute.tiled_iff_encodeAll.2 ⟨p.attributes, harea⟩

lemma exists_decode_of_readable {octets : Octets} (h : Readable octets) :
    ∃ p, decode octets = .ok p := by
  obtain ⟨hheader, ⟨code, hcode⟩, hleast, hmost, hdeclared, htiled⟩ := h
  obtain ⟨attributes, harea⟩ := Attribute.tiled_iff_encodeAll.1 htiled
  have hattributes := Attribute.decodeAll_of_encodeAll harea
  match octets with
  | [] => simp [headerLength] at hheader
  | [_] => simp [headerLength] at hheader
  | [_, _] => simp [headerLength] at hheader
  | [_, _, _] => simp [headerLength] at hheader
  | first :: identifier :: high :: low :: body =>
      rw [List.head?_cons, Option.some.injEq] at hcode
      subst hcode
      change Attribute.decodeAll ((body.drop 16).take (Octets.toNat [high, low] - headerLength)) =
        .ok attributes at hattributes
      change headerLength ≤ Octets.toNat [high, low] at hleast
      change Octets.toNat [high, low] ≤ maxLength at hmost
      change Octets.toNat [high, low] ≤ _ at hdeclared
      have henough : ¬body.length < 16 := by
        simp only [headerLength, List.length_cons] at hheader
        omega
      simp only [decode, Code.ofUInt8?_toUInt8, hattributes]
      rw [dif_neg henough, if_neg (by omega), if_neg (by omega)]
      exact ⟨_, rfl⟩

/-- **Reading a packet undoes writing it.**  A packet is read from exactly those octets that start
with its wire form; what is read is written to the octets that the length field counts; and octets
can be read exactly if their fields are those of a packet. -/
theorem decode_eq_ok_iff_encode_isPrefix (octets : Octets) (p : Packet) :
    (decode octets = .ok p ↔ ∃ wire, p.encode = .ok wire ∧ wire <+: octets) ∧
      (decode octets = .ok p ↔
        declaredLength octets ≤ octets.length ∧
          p.encode = .ok (octets.take (declaredLength octets))) ∧
      ((∃ q, decode octets = .ok q) ↔ Readable octets) := by
  refine ⟨⟨fun h => ?_, ?_⟩, ⟨fun h => ?_, ?_⟩, ⟨?_, exists_decode_of_readable⟩⟩
  · exact ⟨_, encode_of_decode h, List.take_prefix _ _⟩
  · rintro ⟨wire, h, rest, rfl⟩
    exact decode_of_encode h rest
  · exact ⟨(readable_of_decode h).declared_le, encode_of_decode h⟩
  · rintro ⟨-, h⟩
    have hread := decode_of_encode h (octets.drop (declaredLength octets))
    rwa [List.take_append_drop] at hread
  · rintro ⟨q, hq⟩
    exact readable_of_decode hq

end Radius.Packet
