/-
# Queries

The questions an operator asks of a dictionary: which vendors and attributes it knows, how an
attribute is encoded, and what an attribute or a packet, pasted in hexadecimal, says.
-/
import Radius.Report

namespace Radius

open Text

/-- Why a query has no answer. -/
inductive QueryError where
  | dictionary (error : DictionaryError)
  /-- The input is not hexadecimal. -/
  | hex (fault : Hex.Fault)
  /-- The input is no attribute of type 26, or the attribute has no wire form. -/
  | vendorSpecific (error : AttributeError)
  | packet (error : PacketError)
deriving DecidableEq

/-- The cause in words. -/
def QueryError.message : QueryError → String
  | dictionary error => "Dictionary error: " ++ error.message
  | hex fault => "Invalid hex input: " ++ fault.message
  | vendorSpecific error => "Malformed Vendor-Specific attribute: " ++ error.message
  | packet error => "Malformed packet: " ++ error.message

/-- The octets that an operator pastes in hexadecimal. -/
def readPasted (input : String) : Except QueryError Octets :=
  (Hex.decodePasted input.toList).mapError .hex

namespace Dictionary

/-- The attributes of the vendor that a name or a number refers to. -/
def attributesOf (d : Dictionary) (vendor : String) : Except QueryError (List Definition) := do
  let v ← (d.resolve vendor).mapError .dictionary
  return v.attributes

/-- Encodes an operator's text as the value of an attribute, given by the vendor's name or number
and the attribute's name, with a tag after a colon if it takes one. -/
def encodeText (d : Dictionary) (vendor spec text : String) : Except QueryError EncodeReport := do
  let v ← (d.resolve vendor).mapError .dictionary
  let a ← (v.buildFromText spec text).mapError .dictionary
  let wire ← a.encode.mapError .vendorSpecific
  let (name, tag) ← (splitTag spec).mapError .dictionary
  return {
    vendorId := v.id
    vendorName := v.name
    name := ((v.attribute? name).map (·.name)).getD name
    subType := a.subType
    tag := tag
    text := text
    wire := wire }

/-- What can be said of a vendor attribute whose value cannot be read: its names, if the dictionary
knows them, and its octets. -/
def describeRaw (d : Dictionary) (a : VendorSpecific) : Described :=
  let v := d.vendor? a.vendor
  { Described.unknown a with
    vendorName := v.map (·.name)
    name := (v.bind (·.attributeOf? a.subType)).map (·.name) }

/-- The report on a vendor attribute. -/
def reportVendor (d : Dictionary) (mode : Mode) (a : VendorSpecific) : VendorReport :=
  match d.describe a with
  | .ok described => ⟨described, a.value, (d.violation? mode a).map .invalid⟩
  | .error e => ⟨d.describeRaw a, a.value, some (.undescribed e)⟩

/-- The reports on the vendor attributes of an attribute of type 26. -/
def decodeOctets (d : Dictionary) (mode : Mode) (octets : Octets) :
    Except QueryError (List VendorReport) := do
  let held ← (VendorSpecific.decodeAll octets).mapError .vendorSpecific
  return held.map (d.reportVendor mode)

/-- The reports on the vendor attributes of an attribute of type 26 pasted in hexadecimal. -/
def decodePasted (d : Dictionary) (mode : Mode) (input : String) :
    Except QueryError (List VendorReport) := do
  d.decodeOctets mode (← readPasted input)

/-- The report on a standard attribute. A value that cannot be read is shown by its octets. -/
def reportStandard (a : Attribute) : AttributeReport :=
  let raw := "0x" ++ Hex.render a.value
  match StandardType.ofCode? a.type with
  | none => .standard a.type s!"Attr-{a.type}" raw none
  | some type =>
    match a.valueAs type.kind with
    | .ok value => .standard a.type type.name value.render none
    | .error e => .standard a.type type.name raw (some e)

/-- The report on an attribute of a packet. -/
def reportAttribute (d : Dictionary) (mode : Mode) (a : Attribute) : AttributeReport :=
  if a.type = StandardType.vendorSpecific then
    match VendorSpecific.allOfAttribute a with
    | .ok held => .vendor (held.map (d.reportVendor mode))
    | .error e => .malformed a.value e
  else reportStandard a

/-- The report on a packet. -/
def inspect (d : Dictionary) (mode : Mode) (p : Packet) : PacketReport where
  code := p.code
  identifier := p.identifier
  length := p.length
  authenticator := p.authenticator.octets
  attributes := p.attributes.map (d.reportAttribute mode)

/-- The report on a packet pasted in hexadecimal. -/
def inspectPasted (d : Dictionary) (mode : Mode) (input : String) :
    Except QueryError PacketReport := do
  let octets ← readPasted input
  let p ← (Packet.decode octets).mapError .packet
  return d.inspect mode p

end Dictionary

end Radius
