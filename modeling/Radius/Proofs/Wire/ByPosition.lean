/-
# Reading by position stays in range

A reader that goes by positions comes to what the reader comes to that takes octets from the front
(`ByPosition.readAttribute_eq`, …, `ByPosition.readPacket_eq`).  In particular it comes to
something: it never reads outside of its octets.
-/
import Mathlib.Tactic.SplitIfs
import Radius.ByPosition
import Radius.Proofs.Wire.Container

namespace Radius

namespace Access

variable {ε α β : Type} {octets : Octets} {i start stop : Nat}

lemma octet_eq {x : UInt8} (h : octets[i]? = some x) :
    (octet octets i : Access ε UInt8) = pure x := by
  rw [octet, h]
  rfl

lemma slice_eq (hstart : start ≤ stop) (hstop : stop ≤ octets.length) :
    (slice octets start stop : Access ε Octets) = pure ((octets.take stop).drop start) := by
  rw [slice, if_pos ⟨hstart, hstop⟩]
  rfl

lemma slice_rest_eq (hstart : start ≤ octets.length) :
    (slice octets start octets.length : Access ε Octets) = pure (octets.drop start) := by
  rw [slice_eq hstart (Nat.le_refl _), List.take_length]

lemma authenticator_eq (h : octets.length = 16) :
    (authenticator octets : Access ε Authenticator) = pure ⟨octets, h⟩ := by
  rw [authenticator, dif_pos h]
  rfl

lemma of_ok_bind (a : α) (f : α → Access ε β) : of (.ok a) >>= f = f a := rfl

end Access

namespace ByPosition

open Access

/-! ### Attributes -/

lemma readAttribute_eq (octets : Octets) :
    readAttribute octets = of (Prod.fst <$> Attribute.decode octets) := by
  match octets with
  | [] => rfl
  | [_] => rfl
  | type :: declared :: body =>
      have htwo : ¬ (type :: declared :: body).length < 2 := by simp
      rw [readAttribute, if_neg htwo, octet_eq rfl, pure_bind, octet_eq rfl, pure_bind,
        Attribute.decode]
      simp only [List.length_cons]
      split_ifs with hleast hmost
      · rfl
      · rfl
      · obtain ⟨n, hn⟩ : ∃ n, declared.toNat = n + 2 := ⟨declared.toNat - 2, by omega⟩
        rw [slice_eq (by omega) (by simp only [List.length_cons]; omega), hn]
        rfl

lemma attributePass_eq (remaining : Octets) :
    attributePass remaining = of (Attribute.decode remaining) := by
  rw [attributePass, readAttribute_eq]
  cases hread : Attribute.decode remaining with
  | error e => rfl
  | ok read =>
      obtain ⟨a, rest⟩ := read
      obtain ⟨wire, hwire, rfl⟩ := Attribute.encode_of_decode hread
      have hlength : wire.length = a.length := Attribute.length_of_encode hwire
      -- the attribute is as long as what it was read from
      show slice (wire ++ rest) a.length (wire ++ rest).length >>= _ = _
      rw [slice_rest_eq (by rw [List.length_append]; omega), List.drop_left' hlength]
      rfl

/-- The loop starts with a pass and goes on with what the pass leaves. -/
lemma readAttributes_eq_bind {remaining : Octets} (hne : remaining ≠ []) :
    readAttributes remaining =
      attributePass remaining >>= fun (a, rest) => return a :: (← readAttributes rest) := by
  rw [readAttributes, if_neg hne]
  refine ExceptT.ext ?_
  rw [ExceptT.run_bind]
  split
  · next h => rw [h]; rfl
  · next e h => rw [h]; rfl
  · next a rest h =>
      dsimp only
      rw [h]
      rfl

lemma readAttributes_eq (remaining : Octets) :
    readAttributes remaining = of (Attribute.decodeAll remaining) := by
  fun_induction Attribute.decodeAll remaining with
  | case1 =>
      rw [readAttributes, if_pos rfl]
      rfl
  | case2 octets hne e he =>
      rw [readAttributes_eq_bind hne, attributePass_eq, he]
      rfl
  | case3 octets hne a rest hread _ ih =>
      rw [readAttributes_eq_bind hne, attributePass_eq, hread, of_ok_bind]
      simp only [ih]
      cases Attribute.decodeAll rest <;> rfl

/-! ### Vendor attributes -/

lemma exists_eq_cons_four {octets : Octets} (h : 4 ≤ octets.length) :
    ∃ a b c d rest, octets = a :: b :: c :: d :: rest := by
  match octets with
  | a :: b :: c :: d :: rest => exact ⟨a, b, c, d, rest, rfl⟩
  | [] | [_] | [_, _] | [_, _, _] => simp at h

lemma readHeader_eq (octets : Octets) :
    readHeader octets = of (VendorSpecific.splitHeader octets) := by
  match octets with
  | [] => rfl
  | [type] =>
      rw [readHeader, if_neg (List.cons_ne_nil _ _), octet_eq rfl, pure_bind,
        VendorSpecific.splitHeader]
      by_cases htype : type ≠ StandardType.vendorSpecific
      · rw [if_pos htype, if_pos htype]
        rfl
      · rw [if_neg htype, if_neg htype, if_pos (by simp)]
        rfl
  | type :: declared :: body =>
      have htwo : ¬ (type :: declared :: body).length < 2 := by simp
      have hlength : (type :: declared :: body).length = body.length + 2 := rfl
      rw [readHeader, if_neg (List.cons_ne_nil _ _), octet_eq rfl, pure_bind,
        VendorSpecific.splitHeader]
      by_cases htype : type ≠ StandardType.vendorSpecific
      · rw [if_pos htype, if_pos htype]
        rfl
      rw [if_neg htype, if_neg htype, if_neg htwo, octet_eq rfl, pure_bind]
      dsimp only
      rw [hlength]
      split_ifs with hwhole hleast
      · rfl
      · rw [Decidable.not_not.1 hwhole]
        rfl
      · omega
      · omega
      · -- behind the length octet there are the four octets of the number and two more
        simp only [VendorSpecific.headerLength] at *
        have hfour : 4 ≤ body.length := by omega
        obtain ⟨a, b, c, d, payload, rfl⟩ := exists_eq_cons_four hfour
        rw [octet_eq rfl, pure_bind, octet_eq rfl, pure_bind, octet_eq rfl, pure_bind,
          octet_eq rfl, pure_bind, ← hlength,
          slice_rest_eq (by simp only [List.length_cons]; omega)]
        rfl

/-- A vendor's attribute is read from the octets that it alone takes, of which there are at least
two. -/
lemma readSubAttribute_cons (vendor : UInt32) (subType declared : UInt8) (value : Octets) :
    readSubAttribute vendor (subType :: declared :: value) =
      if subType = 0 then throw .reservedSubType else pure (vendor, subType, value) := by
  rw [readSubAttribute, octet_eq rfl, pure_bind, slice_rest_eq (by simp)]
  rfl

/-- The fields of the vendor's attribute at the head of octets, where its length octet does not say
more than there are. -/
lemma map_fields_readTlv {vendor : UInt32} {subType declared : UInt8} {body : Octets}
    (hleast : 2 ≤ declared.toNat) (hmost : declared.toNat ≤ body.length + 2) :
    (Prod.map VendorSpecific.fields id <$>
        VendorSpecific.readTlv vendor (subType :: declared :: body)) =
      if subType = 0 then .error .reservedSubType
      else
        .ok ((vendor, subType, body.take (declared.toNat - 2)),
          body.drop (declared.toNat - 2)) := by
  rw [VendorSpecific.readTlv, if_neg (by omega)]
  split_ifs <;> rfl

lemma readSingle_eq (octets : Octets) :
    readSingle octets = of (VendorSpecific.fields <$> VendorSpecific.decode octets) := by
  rw [readSingle, readHeader_eq, VendorSpecific.decode]
  cases hheader : VendorSpecific.splitHeader octets with
  | error e => rfl
  | ok read =>
      obtain ⟨vendor, payload⟩ := read
      obtain ⟨htwo, -, -⟩ := VendorSpecific.splitHeader_eq_ok_iff.1 hheader
      match payload, htwo with
      | subType :: declared :: body, _ =>
          rw [of_ok_bind]
          dsimp only
          rw [octet_eq rfl, pure_bind]
          dsimp only [bind, Except.bind]
          split_ifs with hwhole
          · rfl
          · have hdeclared : declared.toNat = body.length + 2 := Decidable.not_not.1 hwhole
            have htake : body.take (declared.toNat - 2) = body :=
              List.take_of_length_le (by omega)
            have hwithin : ¬ (declared.toNat < 2 ∨ body.length + 2 < declared.toNat) := by omega
            rw [readSubAttribute_cons, VendorSpecific.readTlv, if_neg hwithin]
            split_ifs with hreserved
            · rfl
            · show pure (vendor, subType, body) =
                of (.ok (vendor, subType, body.take (declared.toNat - 2)))
              rw [htake]
              rfl

lemma subAttributePass_eq (vendor : UInt32) (payload : Octets) :
    subAttributePass vendor payload =
      of (Prod.map VendorSpecific.fields id <$> VendorSpecific.readTlv vendor payload) := by
  match payload with
  | [] => rfl
  | [_] => rfl
  | subType :: declared :: body =>
      have htwo : ¬ (subType :: declared :: body).length < 2 := by simp
      have hlength : (subType :: declared :: body).length = body.length + 2 := rfl
      rw [subAttributePass, if_neg htwo, octet_eq rfl, pure_bind]
      dsimp only
      by_cases hdeclared : declared.toNat < 2 ∨ body.length + 2 < declared.toNat
      · rw [hlength, if_pos hdeclared, VendorSpecific.readTlv, if_pos hdeclared]
        rfl
      · rw [map_fields_readTlv (by omega) (by omega), hlength, if_neg hdeclared, ← hlength,
          slice_eq (Nat.zero_le _) (by omega), slice_rest_eq (by omega), pure_bind]
        obtain ⟨n, hn⟩ : ∃ n, declared.toNat = n + 2 := ⟨declared.toNat - 2, by omega⟩
        rw [hn]
        show readSubAttribute vendor (subType :: declared :: body.take n) >>= _ = _
        rw [readSubAttribute_cons]
        split_ifs <;> rfl

/-- The loop starts with a pass and goes on with what the pass leaves. -/
lemma readSubAttributes_eq_bind {vendor : UInt32} {payload : Octets} (hne : payload ≠ []) :
    readSubAttributes vendor payload =
      subAttributePass vendor payload >>= fun (v, rest) =>
        return v :: (← readSubAttributes vendor rest) := by
  rw [readSubAttributes, if_neg hne]
  refine ExceptT.ext ?_
  rw [ExceptT.run_bind]
  split
  · next h => rw [h]; rfl
  · next e h => rw [h]; rfl
  · next v rest h =>
      dsimp only
      rw [h]
      rfl

lemma readSubAttributes_eq (vendor : UInt32) (payload : Octets) :
    readSubAttributes vendor payload =
      of (List.map VendorSpecific.fields <$> VendorSpecific.readTlvs vendor payload) := by
  fun_induction VendorSpecific.readTlvs vendor payload with
  | case1 =>
      rw [readSubAttributes, if_pos rfl]
      rfl
  | case2 payload hne e he =>
      rw [readSubAttributes_eq_bind hne, subAttributePass_eq, he]
      rfl
  | case3 payload hne v rest hread _ ih =>
      rw [readSubAttributes_eq_bind hne, subAttributePass_eq, hread]
      show readSubAttributes vendor rest >>= _ = _
      rw [ih]
      cases VendorSpecific.readTlvs vendor rest <;> rfl

lemma readContainer_eq (octets : Octets) :
    readContainer octets =
      of (List.map VendorSpecific.fields <$> VendorSpecific.decodeAll octets) := by
  rw [readContainer, readHeader_eq, VendorSpecific.decodeAll]
  cases VendorSpecific.splitHeader octets with
  | error e => rfl
  | ok read =>
      obtain ⟨vendor, payload⟩ := read
      exact readSubAttributes_eq vendor payload

lemma ofAttribute_eq (a : Attribute) :
    ofAttribute a = of (VendorSpecific.fields <$> VendorSpecific.ofAttribute a) := by
  rw [ofAttribute, VendorSpecific.ofAttribute]
  cases VendorSpecific.frame a with
  | error e => rfl
  | ok octets => exact readSingle_eq octets

lemma allOfAttribute_eq (a : Attribute) :
    allOfAttribute a = of (List.map VendorSpecific.fields <$> VendorSpecific.allOfAttribute a) := by
  rw [allOfAttribute, VendorSpecific.allOfAttribute]
  cases VendorSpecific.frame a with
  | error e => rfl
  | ok octets => exact readContainer_eq octets

/-- What is left of the wire form without the type and the length is the value of the attribute. -/
lemma toAttribute_eq (v : VendorSpecific) : toAttribute v = of v.toAttribute := by
  rw [toAttribute, VendorSpecific.encode, VendorSpecific.toAttribute]
  split_ifs with hfits
  · have hmost : v.value.length ≤ 247 := hfits
    have hvalue : (Octets.ofNat 4 v.vendor.toNat ++ v.tlv).length ≤ Attribute.maxValueLength := by
      rw [List.length_append, Octets.length_ofNat, VendorSpecific.length_tlv]
      simp only [Attribute.maxValueLength]
      omega
    show of (Attribute.encode _) >>= _ = _
    rw [Attribute.encode, if_pos hvalue, of_ok_bind, slice_rest_eq (by simp), pure_bind]
    show of (Attribute.new _ (Octets.ofNat 4 v.vendor.toNat ++ v.tlv)) = _
    rw [Attribute.new, if_pos hvalue]
  · rfl

/-! ### Packets -/

lemma readPacket_eq (octets : Octets) : readPacket octets = of (Packet.decode octets) := by
  match octets with
  | [] | [_] | [_, _] | [_, _, _] => rfl
  | code :: identifier :: high :: low :: rest =>
      have hlength : (code :: identifier :: high :: low :: rest).length = rest.length + 4 := rfl
      rw [readPacket, Packet.decode]
      by_cases hshort : rest.length < 16
      · rw [if_pos (by simp only [hlength, Packet.headerLength]; omega), dif_pos hshort]
        rfl
      have henough : Packet.headerLength ≤ rest.length + 4 := by
        simp only [Packet.headerLength]
        omega
      have hsixteen : (rest.take 16).length = 16 := by
        rw [List.length_take]
        omega
      have hheader : ((code :: identifier :: high :: low :: rest).take Packet.headerLength).drop 0 =
          code :: identifier :: high :: low :: rest.take 16 := rfl
      rw [if_neg (by omega), dif_neg hshort, slice_eq (Nat.zero_le _) (by omega), hheader,
        pure_bind, octet_eq rfl, pure_bind]
      cases hcode : Code.ofUInt8? code with
      | none => rfl
      | some type =>
          dsimp only
          rw [octet_eq rfl, pure_bind, octet_eq rfl, pure_bind]
          split_ifs with hlimits hmost
          · rfl
          · rfl
          · have harea : ((code :: identifier :: high :: low :: rest).take
                (Octets.toNat [high, low])).drop Packet.headerLength =
                  (rest.drop 16).take (Octets.toNat [high, low] - Packet.headerLength) := by
              rw [List.drop_take]
              rfl
            rw [slice_eq (by omega) (by omega), harea, pure_bind, slice_rest_eq (by simp),
              pure_bind]
            show authenticator (rest.take 16) >>= _ = _
            rw [authenticator_eq hsixteen, pure_bind, readAttributes_eq]
            cases Attribute.decodeAll
                ((rest.drop 16).take (Octets.toNat [high, low] - Packet.headerLength)) with
            | error e => rfl
            | ok attributes => rfl

/-! ### All readers -/

/-- **Reading by position stays in range, and it ends.**  Whatever octets or attribute they start
from, the readers that go by positions come to the result or the error to which the readers come
that take octets from the front: none of them reads outside of its octets.  Every pass of the two
loops leaves at least two octets fewer, so they end. -/
theorem reads_in_range :
    (∀ octets, (readPacket octets).run = some (Packet.decode octets)) ∧
      (∀ octets, (readAttribute octets).run = some (Prod.fst <$> Attribute.decode octets)) ∧
      (∀ octets, (readSingle octets).run =
        some (VendorSpecific.fields <$> VendorSpecific.decode octets)) ∧
      (∀ octets, (readContainer octets).run =
        some (List.map VendorSpecific.fields <$> VendorSpecific.decodeAll octets)) ∧
      (∀ a, (ofAttribute a).run = some (VendorSpecific.fields <$> VendorSpecific.ofAttribute a)) ∧
      (∀ a, (allOfAttribute a).run =
        some (List.map VendorSpecific.fields <$> VendorSpecific.allOfAttribute a)) ∧
      (∀ v, (toAttribute v).run = some v.toAttribute) ∧
      (∀ remaining a rest, (attributePass remaining).run = some (.ok (a, rest)) →
        rest.length + 2 ≤ remaining.length) ∧
      ∀ vendor payload v rest, (subAttributePass vendor payload).run = some (.ok (v, rest)) →
        rest.length + 2 ≤ payload.length := by
  refine ⟨?_, ?_, ?_, ?_, ?_, ?_, ?_, ?_, ?_⟩
  · intro octets
    rw [readPacket_eq]
    rfl
  · intro octets
    rw [readAttribute_eq]
    rfl
  · intro octets
    rw [readSingle_eq]
    rfl
  · intro octets
    rw [readContainer_eq]
    rfl
  · intro a
    rw [ofAttribute_eq]
    rfl
  · intro a
    rw [allOfAttribute_eq]
    rfl
  · intro v
    rw [toAttribute_eq]
    rfl
  · intro remaining a rest h
    exact length_le_of_attributePass h
  · intro vendor payload v rest h
    exact length_le_of_subAttributePass h

/-- An attribute of three octets and a vendor's attribute of two at the head of five octets. -/
theorem reads_in_range_of_five_octets :
    (attributePass [1, 3, 97, 2, 2]).run = some (.ok (⟨1, [97]⟩, [2, 2])) ∧
      ([2, 2] : Octets).length + 2 ≤ ([1, 3, 97, 2, 2] : Octets).length ∧
      (subAttributePass 9 [1, 2, 2, 3, 97]).run = some (.ok ((9, 1, []), [2, 3, 97])) ∧
      ([2, 3, 97] : Octets).length + 2 ≤ ([1, 2, 2, 3, 97] : Octets).length := by
  obtain ⟨-, -, -, -, -, -, -, hattribute, hsubAttribute⟩ := reads_in_range
  exact ⟨rfl, hattribute [1, 3, 97, 2, 2] ⟨1, [97]⟩ [2, 2] rfl,
    rfl, hsubAttribute 9 [1, 2, 2, 3, 97] (9, 1, []) [2, 3, 97] rfl⟩

/-- A part that another one has not checked for can fail: there is no first octet here. -/
example : (readSubAttribute 9 []).run = none := rfl

end ByPosition

end Radius
