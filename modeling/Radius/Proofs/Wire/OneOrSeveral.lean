/-
# Reading one vendor attribute or several

A frame can be read as one that holds a single vendor attribute or as one that may pack several.
Both readers look at the same header, and the length octet of the first vendor attribute decides how
they go on: where it counts the whole payload, or more or less than can be, they come to the same
(`decodeAll_eq_map_decode`); where it counts less than the payload, the frame is one for the second
reader only (`decodeAll_of_lt`).
-/
import Radius.Proofs.Wire.Container

namespace Radius.VendorSpecific

open Outcome

variable {vendor : UInt32} {subType declared : UInt8} {octets body rest : Octets}
  {e : AttributeError} {v : VendorSpecific} {vs : List VendorSpecific}

/-! ### Faults in a payload -/

/-- A payload is refused where its first attribute is. -/
lemma readTlvs_of_readTlv_eq_error (hne : octets ≠ []) (h : readTlv vendor octets = .error e) :
    readTlvs vendor octets = .error e := by
  rw [readTlvs, if_neg hne]
  split
  · rename_i e' he'
    rw [h] at he'
    exact congrArg Except.error (Except.error.inj he').symm
  · rename_i v rest h'
    simp [h] at h'

/-- The first attribute of a payload that its length octet stays within. -/
lemma readTlv_of_le (vendor : UInt32) (subType : UInt8) (hleast : 2 ≤ declared.toNat)
    (hmost : declared.toNat ≤ 2 + body.length) :
    readTlv vendor (subType :: declared :: body) = .error .reservedSubType ∨
      ∃ v, readTlv vendor (subType :: declared :: body) =
        .ok (v, body.drop (declared.toNat - 2)) := by
  rw [readTlv, if_neg (by omega)]
  by_cases hreserved : subType = 0
  · exact Or.inl (dif_pos hreserved)
  · exact Or.inr ⟨_, dif_neg hreserved⟩

lemma readTlv_of_not_le (h : declared.toNat < 2 ∨ 2 + body.length < declared.toNat) :
    readTlv vendor (subType :: declared :: body) =
      .error (.lengthMismatch declared.toNat (2 + body.length)) := by
  rw [readTlv, if_pos (by omega), Nat.add_comm]

lemma length_eq_of_readTlv {length actual : Nat}
    (h : readTlv vendor octets = .error (.lengthMismatch length actual)) :
    actual = octets.length := by
  match octets with
  | [] => simp [readTlv] at h
  | [_] => simp [readTlv] at h
  | subType :: declared :: body =>
      rw [readTlv] at h
      split at h
      · have hactual := Except.error.inj h
        simp only [AttributeError.lengthMismatch.injEq] at hactual
        exact hactual.2.symm
      · split at h <;> simp at h

/-- A length octet that does not suit the payload is compared with no more octets than there are. -/
lemma le_length_of_readTlvs {length actual : Nat}
    (h : readTlvs vendor octets = .error (.lengthMismatch length actual)) :
    actual ≤ octets.length := by
  fun_induction readTlvs vendor octets with
  | case1 => simp at h
  | case2 octets hne e he =>
      obtain rfl := Except.error.inj h
      exact Nat.le_of_eq (length_eq_of_readTlv he)
  | case3 octets hne v rest hread hlt ih =>
      exact Nat.le_trans (ih (map_eq_error_iff.1 h)) (Nat.le_of_lt hlt)

/-! ### The two readers -/

lemma decodeAll_of_splitHeader (h : splitHeader octets = .ok (vendor, rest)) :
    decodeAll octets = readTlvs vendor rest := by
  rw [decodeAll, h]
  rfl

/-- The reader of one attribute insists that its length octet counts the whole payload. -/
lemma decode_of_splitHeader (h : splitHeader octets = .ok (vendor, subType :: declared :: body)) :
    decode octets =
      if declared.toNat = 2 + body.length then
        Prod.fst <$> readTlv vendor (subType :: declared :: body)
      else .error (.lengthMismatch declared.toNat (2 + body.length)) := by
  have hlength : (subType :: declared :: body).length = 2 + body.length := by
    simp only [List.length_cons]
    omega
  rw [decode, h]
  show (if declared.toNat ≠ (subType :: declared :: body).length then _ else _) = _
  rw [hlength]
  by_cases hwhole : declared.toNat = 2 + body.length
  · rw [if_neg (not_not_intro hwhole), if_pos hwhole]
    cases readTlv vendor (subType :: declared :: body) <;> rfl
  · rw [if_pos hwhole, if_neg hwhole]

/-- Where the first length octet counts the whole payload, or more or less than there can be, the
readers agree. -/
lemma decodeAll_eq_map_decode
    (hheader : splitHeader octets = .ok (vendor, subType :: declared :: body))
    (h : ¬ (2 ≤ declared.toNat ∧ declared.toNat < 2 + body.length)) :
    decodeAll octets = (fun v => [v]) <$> decode octets := by
  rw [decodeAll_of_splitHeader hheader, decode_of_splitHeader hheader]
  by_cases hwhole : declared.toNat = 2 + body.length
  · rw [if_pos hwhole]
    have hleast : 2 ≤ declared.toNat := by omega
    rcases readTlv_of_le vendor subType hleast (Nat.le_of_eq hwhole) with hread | ⟨v, hread⟩
    · rw [readTlvs_of_readTlv_eq_error (by simp) hread, hread]
      rfl
    · -- nothing is left after the one attribute
      have hrest : body.drop (declared.toNat - 2) = [] := List.drop_eq_nil_of_le (by omega)
      rw [readTlvs_of_readTlv hread, hread, hrest, readTlvs_nil]
      rfl
  · rw [if_neg hwhole, readTlvs_of_readTlv_eq_error (by simp) (readTlv_of_not_le (by omega))]
    rfl

/-- Where the first length octet counts less than the payload, only the reader of several can go on:
it fails for another reason or finds at least two attributes. -/
lemma decodeAll_of_lt (hheader : splitHeader octets = .ok (vendor, subType :: declared :: body))
    (hleast : 2 ≤ declared.toNat) (hlt : declared.toNat < 2 + body.length) :
    decode octets = .error (.lengthMismatch declared.toNat (2 + body.length)) ∧
      ((∃ e, decodeAll octets = .error e ∧
          e ≠ .lengthMismatch declared.toNat (2 + body.length)) ∨
        ∃ vs, decodeAll octets = .ok vs ∧ 2 ≤ vs.length) := by
  rw [decodeAll_of_splitHeader hheader, decode_of_splitHeader hheader, if_neg (by omega)]
  refine ⟨rfl, ?_⟩
  rcases readTlv_of_le vendor subType hleast (Nat.le_of_lt hlt) with hread | ⟨v, hread⟩
  · exact Or.inl ⟨_, readTlvs_of_readTlv_eq_error (by simp) hread, by simp⟩
  · have hrest : (body.drop (declared.toNat - 2)).length = 2 + body.length - declared.toNat := by
      rw [List.length_drop]
      omega
    rw [readTlvs_of_readTlv hread]
    cases htail : readTlvs vendor (body.drop (declared.toNat - 2)) with
    | error e =>
        refine Or.inl ⟨e, rfl, ?_⟩
        -- what is left is shorter than the whole payload
        rintro rfl
        have := le_length_of_readTlvs htail
        omega
    | ok vs =>
        refine Or.inr ⟨v :: vs, rfl, ?_⟩
        obtain ⟨-, hpacked⟩ := readTlvs_eq_ok_iff.1 htail
        cases vs with
        | nil =>
            rw [hpacked] at hrest
            simp only [List.flatMap_nil, List.length_nil] at hrest
            omega
        | cons w vs =>
            simp only [List.length_cons]
            omega

/-- **The reader of one and the reader of several.**  Of any octets, either both readers fail for
the same reason, or the one gives an attribute and the other that attribute alone, or the octets are
a header and a payload whose first length octet counts at least 2 octets and fewer than the payload
has.  Then the reader of one attribute says that this length does not match, and the reader of
several fails for another reason or gives at least two attributes. -/
theorem decode_and_decodeAll (octets : Octets) :
    (∃ e, decode octets = .error e ∧ decodeAll octets = .error e) ∨
      (∃ v, decode octets = .ok v ∧ decodeAll octets = .ok [v]) ∨
      ∃ (vendor : UInt32) (subType declared : UInt8) (body : Octets),
        octets = 26 :: UInt8.ofNat (8 + body.length) ::
          (Octets.ofNat 4 vendor.toNat ++ subType :: declared :: body) ∧
        8 + body.length ≤ 255 ∧ 2 ≤ declared.toNat ∧ declared.toNat < 2 + body.length ∧
        decode octets = .error (.lengthMismatch declared.toNat (2 + body.length)) ∧
        ((∃ e, decodeAll octets = .error e ∧
            e ≠ .lengthMismatch declared.toNat (2 + body.length)) ∨
          ∃ vs, decodeAll octets = .ok vs ∧ 2 ≤ vs.length) := by
  cases hheader : splitHeader octets with
  | error e =>
      refine Or.inl ⟨e, ?_, ?_⟩
      · rw [decode, hheader]
        rfl
      · rw [decodeAll, hheader]
        rfl
  | ok parts =>
      obtain ⟨vendor, payload⟩ := parts
      obtain ⟨hleast, hmost, hoctets⟩ := splitHeader_eq_ok_iff.1 hheader
      obtain ⟨subType, declared, body, rfl⟩ : ∃ subType declared body,
          payload = subType :: declared :: body := by
        match payload, hleast with
        | subType :: declared :: body, _ => exact ⟨subType, declared, body, rfl⟩
      by_cases hpacks : 2 ≤ declared.toNat ∧ declared.toNat < 2 + body.length
      · obtain ⟨hsingle, hseveral⟩ := decodeAll_of_lt hheader hpacks.1 hpacks.2
        simp only [List.length_cons] at hmost
        refine Or.inr (Or.inr ⟨vendor, subType, declared, body, ?_, by omega, hpacks.1, hpacks.2,
          hsingle, hseveral⟩)
        have hlength : 6 + (subType :: declared :: body).length = 8 + body.length := by
          simp only [List.length_cons]
          omega
        rw [hoctets, headed, hlength]
      · rw [decodeAll_eq_map_decode hheader hpacks]
        cases decode octets with
        | error e => exact Or.inl ⟨e, rfl, rfl⟩
        | ok v => exact Or.inr (Or.inl ⟨v, rfl, rfl⟩)

/-- Two attributes of one octet each, which only the reader of several takes apart. -/
example : decode [26, 12, 0, 0, 0, 5, 1, 3, 7, 2, 3, 8] = .error (.lengthMismatch 3 6) ∧
    (decodeAll [26, 12, 0, 0, 0, 5, 1, 3, 7, 2, 3, 8]).map List.length = .ok 2 := by
  cbv

end Radius.VendorSpecific
