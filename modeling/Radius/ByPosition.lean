/-
# Reading by position

Octets that lie in one block are read by positions and by slices between two positions. Such a
reader looks at lengths first and relies on what it has seen when it comes to read, maybe in another
of its parts: there must be a second octet in the payload of an attribute because its header has
been accepted, and an attribute that was read must not be longer than the octets it was read from.
The readers of this file go by positions. Where one of them reads outside of its octets, it comes to
nothing at all, not even to an error. Those that read until no octets are left end, as every pass
takes at least two.
-/
import Radius.Packet

namespace Radius

/-- A computation that reads octets by position and comes to a result or an error, or to nothing if
it reads where there is no octet. -/
abbrev Access (ε α : Type) := ExceptT ε Option α

namespace Access

variable {ε α β : Type}

/-- A computation that reads nothing by position. -/
def of (outcome : Except ε α) : Access ε α :=
  ExceptT.mk (some outcome)

/-- The octet at a position. -/
def octet (octets : Octets) (position : Nat) : Access ε UInt8 :=
  ExceptT.lift octets[position]?

/-- The octets from one position up to another, which is not included.  Both must be positions in
the octets, or the position after the last one, and stand in this order. -/
def slice (octets : Octets) (start stop : Nat) : Access ε Octets :=
  ExceptT.lift
    (if start ≤ stop ∧ stop ≤ octets.length then some ((octets.take stop).drop start) else none)

/-- The octets copied into an authenticator, which takes sixteen octets, no more and no less. -/
def authenticator (octets : Octets) : Access ε Authenticator :=
  ExceptT.lift (if h : octets.length = 16 then some ⟨octets, h⟩ else none)

/-- A computation comes to a result in steps that all do. -/
theorem run_bind_eq_some_ok_iff {x : Access ε α} {f : α → Access ε β} {b : β} :
    (x >>= f).run = some (.ok b) ↔ ∃ a, x.run = some (.ok a) ∧ (f a).run = some (.ok b) := by
  rw [ExceptT.run_bind]
  match x.run with
  | none => simp
  | some (.error e) => simp [pure]
  | some (.ok a) => simp

/-- A slice is as long as its two positions are apart. -/
theorem length_of_slice {octets sliced : Octets} {start stop : Nat}
    (h : (slice octets start stop : Access ε Octets).run = some (.ok sliced)) :
    start ≤ stop ∧ stop ≤ octets.length ∧ sliced.length = stop - start := by
  rw [slice, ExceptT.run_lift] at h
  split at h
  · rename_i hrange
    simp only [Option.map_eq_map, Option.map_some, Option.some.injEq, Except.ok.injEq] at h
    rw [← h, List.length_drop, List.length_take]
    omega
  · simp at h

end Access

/-- What a vendor attribute holds. -/
def VendorSpecific.fields (v : VendorSpecific) : UInt32 × UInt8 × Octets :=
  (v.vendor, v.subType, v.value)

namespace ByPosition

open Access

/-! ### Attributes -/

/-- Reads the attribute at the head of the octets. -/
def readAttribute (octets : Octets) : Access AttributeError Attribute :=
  if octets.length < 2 then throw (.truncated octets.length 2)
  else do
    let type ← octet octets 0
    let length := (← octet octets 1).toNat
    if length < 2 then throw (.truncated length 2)
    else if octets.length < length then throw (.lengthMismatch length octets.length)
    else return ⟨type, ← slice octets 2 length⟩

/-- One pass of reading attributes: the attribute at the head, and the octets after as many as the
attribute takes. -/
def attributePass (remaining : Octets) : Access AttributeError (Attribute × Octets) := do
  let a ← readAttribute remaining
  return (a, ← slice remaining a.length remaining.length)

/-- Every pass takes at least two octets. -/
theorem length_le_of_attributePass {remaining rest : Octets} {a : Attribute}
    (h : (attributePass remaining).run = some (.ok (a, rest))) :
    rest.length + 2 ≤ remaining.length := by
  obtain ⟨b, -, h⟩ := run_bind_eq_some_ok_iff.1 h
  obtain ⟨sliced, hsliced, h⟩ := run_bind_eq_some_ok_iff.1 h
  obtain ⟨rfl, rfl⟩ := Prod.mk.inj (Except.ok.inj (Option.some.inj h))
  obtain ⟨hwithin, -, hlength⟩ := length_of_slice hsliced
  have hleast : 2 ≤ b.length := Nat.le_add_right 2 _
  omega

/-- Reads attributes until no octets are left. -/
def readAttributes (remaining : Octets) : Access AttributeError (List Attribute) :=
  if remaining = [] then return []
  else
    match h : (attributePass remaining).run with
    | none => ExceptT.mk none
    | some (.error e) => throw e
    | some (.ok (a, rest)) =>
      have : rest.length < remaining.length :=
        Nat.lt_of_add_right_lt (length_le_of_attributePass h)
      return a :: (← readAttributes rest)
termination_by remaining.length

/-! ### Vendor attributes -/

/-- Reads the vendor's number from the wire form of an attribute of type 26; the second result is
what follows it. -/
def readHeader (octets : Octets) : Access AttributeError (UInt32 × Octets) :=
  if octets = [] then throw (.truncated 0 VendorSpecific.headerLength)
  else do
    let type ← octet octets 0
    if type ≠ StandardType.vendorSpecific then throw (.unexpectedType type)
    else if octets.length < 2 then throw (.truncated octets.length VendorSpecific.headerLength)
    else
      let length := (← octet octets 1).toNat
      if length ≠ octets.length then throw (.lengthMismatch length octets.length)
      else if length < VendorSpecific.headerLength then
        throw (.truncated length VendorSpecific.headerLength)
      else
        let vendor :=
          [← octet octets 2, ← octet octets 3, ← octet octets 4, ← octet octets 5]
        return (UInt32.ofNat (Octets.toNat vendor), ← slice octets 6 octets.length)

/-- Reads the fields of a vendor's attribute out of the octets that it alone takes. -/
def readSubAttribute (vendor : UInt32) (tlv : Octets) :
    Access AttributeError (UInt32 × UInt8 × Octets) := do
  let subType ← octet tlv 0
  if subType = 0 then throw .reservedSubType
  else return (vendor, subType, ← slice tlv 2 tlv.length)

/-- Reads the wire form of an attribute of type 26 that holds one vendor attribute. -/
def readSingle (octets : Octets) : Access AttributeError (UInt32 × UInt8 × Octets) := do
  let (vendor, payload) ← readHeader octets
  let declared := (← octet payload 1).toNat
  if declared ≠ payload.length then throw (.lengthMismatch declared payload.length)
  else readSubAttribute vendor payload

/-- One pass of reading a vendor's attributes: the attribute at the head, and the octets after as
many as its length field says. -/
def subAttributePass (vendor : UInt32) (payload : Octets) :
    Access AttributeError ((UInt32 × UInt8 × Octets) × Octets) :=
  if payload.length < 2 then throw (.truncated payload.length 2)
  else do
    let declared := (← octet payload 1).toNat
    if declared < 2 ∨ payload.length < declared then
      throw (.lengthMismatch declared payload.length)
    else
      let v ← readSubAttribute vendor (← slice payload 0 declared)
      return (v, ← slice payload declared payload.length)

/-- Every pass takes at least two octets. -/
theorem length_le_of_subAttributePass {vendor : UInt32} {payload rest : Octets}
    {v : UInt32 × UInt8 × Octets}
    (h : (subAttributePass vendor payload).run = some (.ok (v, rest))) :
    rest.length + 2 ≤ payload.length := by
  unfold subAttributePass at h
  split at h
  · simp at h
  obtain ⟨declared, -, h⟩ := run_bind_eq_some_ok_iff.1 h
  simp only at h
  split at h
  · simp at h
  obtain ⟨tlv, -, h⟩ := run_bind_eq_some_ok_iff.1 h
  obtain ⟨w, -, h⟩ := run_bind_eq_some_ok_iff.1 h
  obtain ⟨sliced, hsliced, h⟩ := run_bind_eq_some_ok_iff.1 h
  obtain ⟨-, rfl⟩ := Prod.mk.inj (Except.ok.inj (Option.some.inj h))
  obtain ⟨hwithin, -, hlength⟩ := length_of_slice hsliced
  omega

/-- Reads a vendor's attributes until no octets are left. -/
def readSubAttributes (vendor : UInt32) (payload : Octets) :
    Access AttributeError (List (UInt32 × UInt8 × Octets)) :=
  if payload = [] then return []
  else
    match h : (subAttributePass vendor payload).run with
    | none => ExceptT.mk none
    | some (.error e) => throw e
    | some (.ok (v, rest)) =>
      have : rest.length < payload.length :=
        Nat.lt_of_add_right_lt (length_le_of_subAttributePass h)
      return v :: (← readSubAttributes vendor rest)
termination_by payload.length

/-- Reads the wire form of an attribute of type 26 that holds one vendor attribute or more. -/
def readContainer (octets : Octets) :
    Access AttributeError (List (UInt32 × UInt8 × Octets)) := do
  let (vendor, payload) ← readHeader octets
  readSubAttributes vendor payload

/-- The one vendor attribute that an attribute of type 26 holds. -/
def ofAttribute (a : Attribute) : Access AttributeError (UInt32 × UInt8 × Octets) := do
  readSingle (← Access.of (VendorSpecific.frame a))

/-- The vendor attributes that an attribute of type 26 holds. -/
def allOfAttribute (a : Attribute) : Access AttributeError (List (UInt32 × UInt8 × Octets)) := do
  readContainer (← Access.of (VendorSpecific.frame a))

/-- The attribute of type 26 that holds a vendor attribute, cut out of the vendor attribute's wire
form after the type and the length. -/
def toAttribute (v : VendorSpecific) : Access AttributeError Attribute := do
  let encoded ← Access.of v.encode
  Access.of (Attribute.new StandardType.vendorSpecific (← slice encoded 2 encoded.length))

/-! ### Packets -/

/-- Reads the packet at the head of the octets. -/
def readPacket (octets : Octets) : Access PacketError Packet :=
  if octets.length < Packet.headerLength then throw (.invalidLength octets.length)
  else do
    let header ← slice octets 0 Packet.headerLength
    let first ← octet header 0
    match Code.ofUInt8? first with
    | none => throw (.invalidCode first)
    | some code =>
      let length := Octets.toNat [← octet header 2, ← octet header 3]
      if length < Packet.headerLength ∨ Packet.maxLength < length then throw (.invalidLength length)
      else if octets.length < length then throw (.invalidLength octets.length)
      else
        let remaining ← slice octets Packet.headerLength length
        let authenticator ← authenticator (← slice header 4 header.length)
        let attributes ← (readAttributes remaining).adapt .badAttribute
        return ⟨code, ← octet header 1, authenticator, attributes⟩

end ByPosition

end Radius
