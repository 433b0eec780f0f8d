/-
# Packets

A packet has a code, an identifier, an authenticator and attributes; its wire form adds a length of
two octets that counts the whole packet, 20 to 4096 octets. Octets after that length are padding.
The authenticator is carried as it stands: making and checking it needs a secret this library never
sees.
-/
import Radius.Packet.Code
import Radius.VendorSpecific

namespace Radius

/-- The sixteen octets that authenticate a packet. -/
structure Authenticator where
  octets : Octets
  length_eq : octets.length = 16
deriving DecidableEq

/-- The authenticator of zeros. -/
def Authenticator.zero : Authenticator :=
  ⟨List.replicate 16 0, by simp⟩

/-- A packet. -/
structure Packet where
  code : Code
  /-- Matches a response to its request. -/
  identifier : UInt8
  authenticator : Authenticator
  attributes : List Attribute
deriving DecidableEq

/-- Why a packet cannot be written or read. -/
inductive PacketError where
  /-- A length field outside the limits, or fewer octets than the packet needs. -/
  | invalidLength (length : Nat)
  /-- No packet type has this octet. -/
  | invalidCode (code : UInt8)
  /-- An attribute cannot be written or read. -/
  | badAttribute (error : AttributeError)
  /-- The packet would have `length` octets. -/
  | tooLarge (length : Nat)
deriving DecidableEq

/-- The cause in words. -/
def PacketError.message : PacketError → String
  | invalidLength length => s!"Invalid packet length: {length}"
  | invalidCode code => s!"Invalid packet code: {code}"
  | badAttribute error => "Attribute error: " ++ error.message
  | tooLarge length => s!"Packet too large: {length} bytes"

namespace Packet

/-- The octets before the attributes. -/
def headerLength : Nat := 20

/-- The most octets a packet can have. -/
def maxLength : Nat := 4096

/-- A packet without attributes. -/
def new (code : Code) (identifier : UInt8) (authenticator : Authenticator) : Packet :=
  ⟨code, identifier, authenticator, []⟩

/-- The number of octets the packet takes on the wire. -/
def length (p : Packet) : Nat :=
  headerLength + Attribute.lengthAll p.attributes

/-- The packet with an attribute after the others. -/
def add (p : Packet) (a : Attribute) : Packet :=
  { p with attributes := p.attributes ++ [a] }

/-- The packet with a vendor attribute, framed on its own, after the others. -/
def addVendor (p : Packet) (v : VendorSpecific) : Except PacketError Packet :=
  match v.toAttribute with
  | .ok a => .ok (p.add a)
  | .error e => .error (.badAttribute e)

/-- The wire form of the packet. -/
def encode (p : Packet) : Except PacketError Octets :=
  if maxLength < p.length then .error (.tooLarge p.length)
  else
    match Attribute.encodeAll p.attributes with
    | .ok area =>
      .ok (p.code.toUInt8 :: p.identifier :: Octets.ofNat 2 p.length ++ p.authenticator.octets ++ area)
    | .error e => .error (.badAttribute e)

/-- Reads the packet at the head of the octets; what its length field leaves out is ignored. -/
def decode (octets : Octets) : Except PacketError Packet :=
  match octets with
  | code :: identifier :: high :: low :: rest =>
    if enough : rest.length < 16 then .error (.invalidLength octets.length)
    else
      match Code.ofUInt8? code with
      | none => .error (.invalidCode code)
      | some code =>
        let length := Octets.toNat [high, low]
        if length < headerLength ∨ maxLength < length then .error (.invalidLength length)
        else if octets.length < length then .error (.invalidLength octets.length)
        else
          match Attribute.decodeAll ((rest.drop 16).take (length - headerLength)) with
          | .error e => .error (.badAttribute e)
          | .ok attributes =>
            .ok ⟨code, identifier, ⟨rest.take 16, by simp; omega⟩, attributes⟩
  | _ => .error (.invalidLength octets.length)

/-- The first attribute of a type. -/
def find? (p : Packet) (type : UInt8) : Option Attribute :=
  p.attributes.find? (·.type == type)

/-- The attributes of a type, in order. -/
def findAll (p : Packet) (type : UInt8) : List Attribute :=
  p.attributes.filter (·.type == type)

/-- For each attribute of type 26, in order, the vendor attributes it holds or what is wrong with
it. -/
def vendorAttributes (p : Packet) : List (Except AttributeError (List VendorSpecific)) :=
  (p.findAll StandardType.vendorSpecific).map VendorSpecific.allOfAttribute

/-- The first vendor attribute with the given numbers. An attribute of type 26 that cannot be read
is passed over. -/
def findVendor? (p : Packet) (vendor : UInt32) (subType : UInt8) : Option VendorSpecific :=
  (p.vendorAttributes.flatMap fun read => read.toOption.getD []).find? fun v =>
    v.vendor == vendor && v.subType == subType

end Packet

end Radius
