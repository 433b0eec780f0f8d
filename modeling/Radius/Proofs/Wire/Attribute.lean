/-
# Attributes on the wire

An attribute is read from the octets that it is written to, whatever follows them
(`decode_append_of_encode`), and from no others (`encode_of_decode`); so are attributes one after
the other.  The octets that are attributes one after the other are those that length octets of at
least two tile exactly (`Tiled`).
-/
import Radius.Attribute
import Radius.Proofs.Outcome
import Radius.Proofs.Wire.Field

namespace Radius.Attribute

open Outcome

/-! ### One attribute -/

/-- What an attribute is written to, and when it is written at all. -/
lemma encode_eq_ok_iff {a : Attribute} {wire : Octets} :
    a.encode = .ok wire ↔
      a.value.length ≤ maxValueLength ∧ wire = a.type :: UInt8.ofNat a.length :: a.value := by
  unfold encode
  by_cases h : a.value.length ≤ maxValueLength
  · rw [if_pos h, Except.ok.injEq, eq_comm]
    simp [h]
  · rw [if_neg h]
    simp [h]

lemma length_of_encode {a : Attribute} {wire : Octets} (h : a.encode = .ok wire) :
    wire.length = a.length := by
  obtain ⟨-, rfl⟩ := encode_eq_ok_iff.1 h
  simp only [List.length_cons, length]
  omega

/-- Reading gives the attribute back that was written, and what follows it. -/
lemma decode_append_of_encode {a : Attribute} {wire : Octets} (h : a.encode = .ok wire)
    (rest : Octets) : decode (wire ++ rest) = .ok (a, rest) := by
  obtain ⟨hfits, rfl⟩ := encode_eq_ok_iff.1 h
  have hlength : (UInt8.ofNat a.length).toNat = 2 + a.value.length :=
    Octets.toNat_lengthOctet (by simp only [length]; simp only [maxValueLength] at hfits; omega)
  have hvalue : 2 + a.value.length - 2 = a.value.length := by omega
  simp only [List.cons_append, decode, hlength]
  rw [if_neg (by omega), if_neg (by simp only [List.length_append]; omega), hvalue,
    List.take_left, List.drop_left]

/-- What is read was written, by the attribute that was read. -/
lemma encode_of_decode {octets rest : Octets} {a : Attribute}
    (h : decode octets = .ok (a, rest)) : ∃ wire, a.encode = .ok wire ∧ octets = wire ++ rest := by
  match octets with
  | [] => simp [decode] at h
  | [_] => simp [decode] at h
  | type :: declared :: body =>
      simp only [decode] at h
      split at h
      · simp at h
      rename_i hleast
      split at h
      · simp at h
      rename_i hroom
      simp only [Except.ok.injEq, Prod.mk.injEq] at h
      obtain ⟨rfl, rfl⟩ := h
      have hlt : declared.toNat < 256 := declared.toNat_lt
      have hvalue : (body.take (declared.toNat - 2)).length = declared.toNat - 2 := by
        rw [List.length_take]
        omega
      refine ⟨_, encode_eq_ok_iff.2 ⟨?_, rfl⟩, ?_⟩
      · simp only [hvalue, maxValueLength]
        omega
      · have hlength : 2 + (declared.toNat - 2) = declared.toNat := by omega
        simp only [length, hvalue, hlength, UInt8.ofNat_toNat, List.cons_append,
          List.take_append_drop]

/-! ### Attributes one after the other -/

lemma encodeAll_cons_eq_ok_iff {a : Attribute} {as : List Attribute} {octets : Octets} :
    encodeAll (a :: as) = .ok octets ↔
      ∃ wire area, a.encode = .ok wire ∧ encodeAll as = .ok area ∧ octets = wire ++ area := by
  simp only [encodeAll, bind_eq_ok_iff]
  constructor
  · rintro ⟨wire, hwire, area, harea, h⟩
    exact ⟨wire, area, hwire, harea, (Except.ok.inj h).symm⟩
  · rintro ⟨wire, area, hwire, harea, rfl⟩
    exact ⟨wire, hwire, area, harea, rfl⟩

lemma length_of_encodeAll {as : List Attribute} {octets : Octets} (h : encodeAll as = .ok octets) :
    octets.length = lengthAll as := by
  induction as generalizing octets with
  | nil =>
      rw [encodeAll, Except.ok.injEq] at h
      rw [← h, lengthAll, List.length_nil]
  | cons a as ih =>
      obtain ⟨wire, area, hwire, harea, rfl⟩ := encodeAll_cons_eq_ok_iff.1 h
      rw [List.length_append, lengthAll, length_of_encode hwire, ih harea]

/-- Where attributes have a wire form, each of them has one. -/
lemma exists_encode_of_mem {a : Attribute} {as : List Attribute} {octets : Octets}
    (h : encodeAll as = .ok octets) (ha : a ∈ as) : ∃ wire, a.encode = .ok wire := by
  induction as generalizing octets with
  | nil => simp at ha
  | cons first rest ih =>
      obtain ⟨wire, area, hwire, harea, -⟩ := encodeAll_cons_eq_ok_iff.1 h
      rcases List.mem_cons.1 ha with rfl | ha
      · exact ⟨wire, hwire⟩
      · exact ih harea ha

@[simp] lemma decodeAll_nil : decodeAll [] = .ok [] := by
  rw [decodeAll, if_pos rfl]

/-- Reading all attributes is reading the first and then the others. -/
lemma decodeAll_of_decode {octets rest : Octets} {a : Attribute}
    (h : decode octets = .ok (a, rest)) : decodeAll octets = (a :: ·) <$> decodeAll rest := by
  have hne : octets ≠ [] := by
    rintro rfl
    simp [decode] at h
  rw [decodeAll, if_neg hne]
  split
  · rename_i e he
    rw [h] at he
    simp at he
  · rename_i a' rest' h'
    rw [h, Except.ok.injEq, Prod.mk.injEq] at h'
    obtain ⟨rfl, rfl⟩ := h'
    rfl

lemma decodeAll_of_encodeAll {as : List Attribute} {octets : Octets}
    (h : encodeAll as = .ok octets) : decodeAll octets = .ok as := by
  induction as generalizing octets with
  | nil =>
      rw [encodeAll, Except.ok.injEq] at h
      rw [← h, decodeAll_nil]
  | cons a as ih =>
      obtain ⟨wire, area, hwire, harea, rfl⟩ := encodeAll_cons_eq_ok_iff.1 h
      rw [decodeAll_of_decode (decode_append_of_encode hwire area), ih harea]
      rfl

lemma encodeAll_of_decodeAll {octets : Octets} {as : List Attribute}
    (h : decodeAll octets = .ok as) : encodeAll as = .ok octets := by
  fun_induction decodeAll octets generalizing as with
  | case1 =>
      rw [Except.ok.injEq] at h
      rw [← h, encodeAll]
  | case2 octets hne e he => simp at h
  | case3 octets hne a rest hdecode _ ih =>
      obtain ⟨as', has', rfl⟩ := map_eq_ok_iff.1 h
      obtain ⟨wire, hwire, rfl⟩ := encode_of_decode hdecode
      exact encodeAll_cons_eq_ok_iff.2 ⟨wire, rest, hwire, ih has', rfl⟩

/-! ### Tilings -/

/-- Octets that length octets of at least two tile exactly: each tile is a type, a length octet that
counts the whole tile, and a value. -/
inductive Tiled : Octets → Prop
  | nil : Tiled []
  | cons {type declared : UInt8} {value rest : Octets} :
      declared.toNat = 2 + value.length → Tiled rest →
        Tiled (type :: declared :: (value ++ rest))

/-- The octets that attributes are written to are the tiled ones. -/
lemma tiled_iff_encodeAll {octets : Octets} :
    Tiled octets ↔ ∃ as, encodeAll as = .ok octets := by
  constructor
  · intro h
    induction h with
    | nil => exact ⟨[], rfl⟩
    | @cons type declared value rest hdeclared _ ih =>
        obtain ⟨as, has⟩ := ih
        have hlt : declared.toNat < 256 := declared.toNat_lt
        have hwire : encode ⟨type, value⟩ = .ok (type :: declared :: value) := by
          refine encode_eq_ok_iff.2 ⟨?_, ?_⟩
          · simp only [maxValueLength]
            omega
          · rw [length, ← hdeclared, UInt8.ofNat_toNat]
        exact ⟨_, encodeAll_cons_eq_ok_iff.2 ⟨_, rest, hwire, has, rfl⟩⟩
  · rintro ⟨as, has⟩
    induction as generalizing octets with
    | nil =>
        rw [encodeAll, Except.ok.injEq] at has
        exact has ▸ .nil
    | cons a as ih =>
        obtain ⟨wire, area, hwire, harea, rfl⟩ := encodeAll_cons_eq_ok_iff.1 has
        obtain ⟨hfits, rfl⟩ := encode_eq_ok_iff.1 hwire
        refine .cons ?_ (ih harea)
        simp only [maxValueLength] at hfits
        exact Octets.toNat_lengthOctet (by rw [length]; omega)

end Radius.Attribute
