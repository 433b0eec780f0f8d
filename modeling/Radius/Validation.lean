/-
# Validation

Checks attributes against what a dictionary and the standards say of them. Every value must read as
the kind declared for it, and every attribute of type 26 must hold well-formed vendor attributes. In
the strict mode vendors and their attributes must also be known, and the number of an attribute that
names its values must be one of those named; the lenient mode lets newer equipment pass.
-/
import Radius.Dictionary
import Radius.Packet

namespace Radius

/-- How much a dictionary has to know of the attributes it checks. -/
inductive Mode where
  | strict
  | lenient
deriving DecidableEq

/-- What is wrong with an attribute. -/
inductive Violation where
  /-- An attribute of type 26 that does not hold vendor attributes. -/
  | malformed (error : AttributeError)
  | unknownVendor (vendor : UInt32)
  | unknownAttribute (vendor : String) (subType : UInt8)
  /-- The value is not of the kind declared for the attribute. -/
  | invalidValue (name : String) (error : AttributeError)
  /-- The number is none of those that have a name. -/
  | unlistedValue (name : String) (number : Int32)
deriving DecidableEq

/-- The violation in words. -/
def Violation.message : Violation → String
  | malformed error => "Malformed Vendor-Specific attribute: " ++ error.message
  | unknownVendor vendor => s!"Unknown vendor: {vendor}"
  | unknownAttribute vendor subType => s!"Vendor {vendor} has no attribute with sub-type {subType}"
  | invalidValue name error => name ++ ": " ++ error.message
  | unlistedValue name number => s!"{name}: {number} is not a listed value"

/-- Whether the strict mode refuses a value: a number without a name where others have one. -/
def Definition.unlisted? (d : Definition) : Value → Option Int32
  | .integer number =>
    if !d.values.isEmpty ∧ (d.nameOf? number).isNone then some number else none
  | _ => none

/-- What is wrong with the value of a vendor attribute, by its definition. -/
def Definition.violation? (d : Definition) (mode : Mode) (wire : Octets) : Option Violation :=
  match d.decodeValue wire with
  | .error e => some (.invalidValue d.name e)
  | .ok (_, value) =>
    match mode with
    | .strict => (d.unlisted? value).map (.unlistedValue d.name)
    | .lenient => none

/-- What is wrong with a standard attribute. One of an unknown type passes. -/
def Attribute.violation? (a : Attribute) : Option Violation :=
  match StandardType.ofCode? a.type with
  | none => none
  | some type =>
    match a.valueAs type.kind with
    | .ok _ => none
    | .error e => some (.invalidValue type.name e)

namespace Dictionary

/-- What is wrong with a vendor attribute; none if it is valid. -/
def violation? (d : Dictionary) (mode : Mode) (a : VendorSpecific) : Option Violation :=
  match d.vendor? a.vendor with
  | none =>
    match mode with
    | .strict => some (.unknownVendor a.vendor)
    | .lenient => none
  | some v =>
    match v.attributeOf? a.subType with
    | none =>
      match mode with
      | .strict => some (.unknownAttribute v.name a.subType)
      | .lenient => none
    | some definition => definition.violation? mode a.value

/-- What is wrong with an attribute of a packet: the first violation of the vendor attributes it
holds, if it is of type 26. -/
def attributeViolation? (d : Dictionary) (mode : Mode) (a : Attribute) : Option Violation :=
  if a.type = StandardType.vendorSpecific then
    match VendorSpecific.allOfAttribute a with
    | .error e => some (.malformed e)
    | .ok held => held.findSome? (d.violation? mode)
  else a.violation?

/-- The first violation of a packet's attributes; none if the packet is valid. -/
def packetViolation? (d : Dictionary) (mode : Mode) (p : Packet) : Option Violation :=
  p.attributes.findSome? (d.attributeViolation? mode)

end Dictionary

end Radius
