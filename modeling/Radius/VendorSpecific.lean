/-
# Vendor attributes

An attribute of type 26 starts with the vendor's number in four octets. After it stand the vendor's
own attributes: a sub-type, a length that counts these two octets as well, and a value. `encode`
frames one vendor attribute; `decode` reads an attribute that holds exactly one, `decodeAll` one
that may pack several.

The inner length octet allows values of up to 253 octets, the outer one only of up to 247, so there
are vendor attributes that can be held but not framed.
-/
import Radius.Attribute
import Radius.Attribute.Standard

namespace Radius

/-- A vendor attribute. -/
structure VendorSpecific where
  /-- The vendor's number. -/
  vendor : UInt32
  /-- The attribute's number among those of the vendor. -/
  subType : UInt8
  /-- The octets of the value. -/
  value : Octets
  subType_ne_zero : subType ≠ 0
  length_le : value.length ≤ 253
deriving DecidableEq

namespace VendorSpecific

/-- The most octets a value can have beside the inner length octet. -/
def maxValueLength : Nat := 253

/-- The most octets a value can have in a framed attribute. -/
def maxFramedValueLength : Nat := 247

/-- The octets before the value: type, length, vendor, sub-type, inner length. -/
def headerLength : Nat := 8

/-- The vendor attribute with the given value, if the sub-type and the length allow it. -/
def new (vendor : UInt32) (subType : UInt8) (value : Octets) :
    Except AttributeError VendorSpecific :=
  if reserved : subType = 0 then .error .reservedSubType
  else if fits : value.length ≤ maxValueLength then .ok ⟨vendor, subType, value, reserved, fits⟩
  else .error (.valueTooLong value.length maxValueLength)

/-- The vendor attribute that carries a typed value. -/
def ofValue (vendor : UInt32) (subType : UInt8) (value : Value) :
    Except AttributeError VendorSpecific :=
  new vendor subType value.encode

/-- The value read as the given kind. -/
def valueAs (v : VendorSpecific) (kind : Kind) : Except AttributeError Value :=
  Value.decode kind v.value

/-- The number of octets of the framed attribute. -/
def length (v : VendorSpecific) : Nat :=
  headerLength + v.value.length

/-! ### Writing -/

/-- The vendor's own attribute: sub-type, length, value. -/
def tlv (v : VendorSpecific) : Octets :=
  v.subType :: UInt8.ofNat (2 + v.value.length) :: v.value

/-- The attribute of type 26 that holds this vendor attribute alone. -/
def toAttribute (v : VendorSpecific) : Except AttributeError Attribute :=
  if v.value.length ≤ maxFramedValueLength then
    .ok ⟨StandardType.vendorSpecific, Octets.ofNat 4 v.vendor.toNat ++ v.tlv⟩
  else .error (.valueTooLong v.value.length maxFramedValueLength)

/-- The wire form of the attribute of type 26 that holds this vendor attribute alone. -/
def encode (v : VendorSpecific) : Except AttributeError Octets := do
  (← v.toAttribute).encode

/-! ### Reading -/

/-- Splits the wire form of an attribute of type 26, with nothing after it, into the vendor's number
and the octets after it, of which there are at least two. -/
def splitHeader : Octets → Except AttributeError (UInt32 × Octets)
  | [] => .error (.truncated 0 headerLength)
  | type :: rest =>
    if type ≠ StandardType.vendorSpecific then .error (.unexpectedType type)
    else
      match rest with
      | [] => .error (.truncated 1 headerLength)
      | declared :: body =>
        if declared.toNat ≠ body.length + 2 then
          .error (.lengthMismatch declared.toNat (body.length + 2))
        else if body.length + 2 < headerLength then .error (.truncated (body.length + 2) headerLength)
        else .ok (UInt32.ofNat (Octets.toNat (body.take 4)), body.drop 4)

/-- A length octet leaves at most 253 octets for the value. -/
theorem length_take_le (declared : UInt8) (body : Octets) :
    (body.take (declared.toNat - 2)).length ≤ 253 := by
  have := declared.toNat_lt
  simp only [List.length_take]
  omega

/-- Reads the vendor's attribute at the head of the octets; the second result is what follows it. -/
def readTlv (vendor : UInt32) : Octets → Except AttributeError (VendorSpecific × Octets)
  | subType :: declared :: body =>
    if declared.toNat < 2 ∨ body.length + 2 < declared.toNat then
      .error (.lengthMismatch declared.toNat (body.length + 2))
    else if reserved : subType = 0 then .error .reservedSubType
    else
      .ok (⟨vendor, subType, body.take (declared.toNat - 2), reserved,
        length_take_le declared body⟩, body.drop (declared.toNat - 2))
  | octets => .error (.truncated octets.length 2)

/-- Reading a vendor's attribute takes at least two octets. -/
theorem length_lt_of_readTlv {vendor : UInt32} {octets rest : Octets} {v : VendorSpecific}
    (h : readTlv vendor octets = .ok (v, rest)) : rest.length + 2 ≤ octets.length := by
  unfold readTlv at h
  split at h
  · split at h
    · simp at h
    split at h
    · simp at h
    · simp only [Except.ok.injEq, Prod.mk.injEq] at h
      simp [← h.2]
  · simp at h

/-- Reads the vendor's attributes until no octets are left. -/
def readTlvs (vendor : UInt32) (octets : Octets) : Except AttributeError (List VendorSpecific) :=
  if octets = [] then .ok []
  else
    match h : readTlv vendor octets with
    | .error e => .error e
    | .ok (v, rest) =>
      have : rest.length < octets.length := Nat.lt_of_add_right_lt (length_lt_of_readTlv h)
      (v :: ·) <$> readTlvs vendor rest
termination_by octets.length

/-- Reads the wire form of an attribute of type 26 that holds one vendor attribute. -/
def decode (octets : Octets) : Except AttributeError VendorSpecific := do
  let (vendor, payload) ← splitHeader octets
  match payload with
  -- nothing may follow the one vendor attribute
  | _ :: declared :: _ =>
    if declared.toNat ≠ payload.length then
      .error (.lengthMismatch declared.toNat payload.length)
    else
      let (v, _) ← readTlv vendor payload
      return v
  | _ => .error (.truncated octets.length headerLength)

/-- Reads the wire form of an attribute of type 26 that holds one vendor attribute or more. -/
def decodeAll (octets : Octets) : Except AttributeError (List VendorSpecific) := do
  let (vendor, payload) ← splitHeader octets
  readTlvs vendor payload

/-- The wire form of an attribute that may hold vendor attributes. -/
def frame (a : Attribute) : Except AttributeError Octets :=
  if a.type ≠ StandardType.vendorSpecific then .error (.unexpectedType a.type) else a.encode

/-- The one vendor attribute that an attribute of type 26 holds. -/
def ofAttribute (a : Attribute) : Except AttributeError VendorSpecific := do
  decode (← frame a)

/-- The vendor attributes that an attribute of type 26 holds. -/
def allOfAttribute (a : Attribute) : Except AttributeError (List VendorSpecific) := do
  decodeAll (← frame a)

end VendorSpecific

end Radius
