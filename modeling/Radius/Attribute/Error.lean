/-
# What can be wrong with an attribute

The causes for which a value, an attribute or a vendor attribute cannot be built, written or read.
-/
import Radius.Text.Quoted
import Radius.Text.Utf8
import Radius.Value.Kind

namespace Radius

/-- Why octets are no value of the kind asked for. -/
inductive MalformedValue where
  /-- An integer has four octets, not `length`. -/
  | integerLength (length : Nat)
  /-- An IPv4 address has four octets, not `length`. -/
  | ipv4Length (length : Nat)
  /-- A counter has eight octets, not `length`. -/
  | counterLength (length : Nat)
  /-- Text is UTF-8. -/
  | notText (fault : Text.Utf8.Fault)
deriving DecidableEq

/-- The cause in words. -/
def MalformedValue.message : MalformedValue → String
  | integerLength length => s!"Expected 4 bytes for integer, got {length}"
  | ipv4Length length => s!"Expected 4 bytes for IPv4 address, got {length}"
  | counterLength length => s!"Expected 8 bytes for 64-bit counter, got {length}"
  | notText fault => "Invalid UTF-8 in text value: " ++ fault.message

/-- Why an attribute cannot be built, written or read. -/
inductive AttributeError where
  /-- Vendor sub-type 0 is reserved. -/
  | reservedSubType
  /-- An IPv4 value was asked for, from an address of `octets` octets. -/
  | addressFamily (octets : Nat)
  /-- A value of `length` octets does not fit where `most` are the limit. -/
  | valueTooLong (length most : Nat)
  /-- A value of one kind was given for an attribute of another. -/
  | kindMismatch (expected found : Kind)
  /-- Tags run from 1 to 31. -/
  | invalidTag (tag : UInt8)
  /-- Beside a tag there is room for 24 bits. -/
  | taggedIntegerRange (number : Int32)
  /-- A text does not spell a value of the kind. -/
  | unreadable (kind : Kind) (text : String)
  /-- The octets are no value of the kind asked for. -/
  | malformed (cause : MalformedValue)
  /-- A vendor attribute travels in type 26, not in `type`. -/
  | unexpectedType (type : UInt8)
  /-- A length field does not agree with the octets that are there. -/
  | lengthMismatch (declared actual : Nat)
  /-- There are `length` octets where the fixed fields alone take `least`. -/
  | truncated (length least : Nat)
deriving DecidableEq

/-- The cause in words. -/
def AttributeError.message : AttributeError → String
  | reservedSubType => "Invalid vendor sub-type: 0"
  | addressFamily octets => s!"Invalid address family: expected 4 octets, got {octets}"
  | valueTooLong length most => s!"Attribute value too long: {length} bytes (max {most})"
  | kindMismatch expected found => "Expected " ++ expected.name ++ " value, got " ++ found.name
  | invalidTag tag => s!"Invalid tag: {tag} (expected 1-31)"
  | taggedIntegerRange number => s!"Tagged integer {number} does not fit in 24 bits"
  | unreadable kind text => "Invalid " ++ kind.name ++ " value: " ++ Text.quote text
  | malformed cause => "Malformed attribute: " ++ cause.message
  | unexpectedType type => s!"Unexpected attribute type: {type} (expected 26)"
  | lengthMismatch declared actual =>
    s!"Length mismatch: length field says {declared}, have {actual}"
  | truncated length least => s!"Truncated attribute: {length} bytes (min {least})"

end Radius
