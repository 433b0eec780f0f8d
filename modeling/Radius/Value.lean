/-
# Attribute values

A typed value, its octets on the wire and its text for the operator. The wire form has no length of
its own: an integer or an address has four octets, text and opaque octets take what the attribute
gives them. Sixty-four bit counters travel as opaque octets and have readers of their own.
-/
import Radius.Address
import Radius.Attribute.Error
import Radius.Text.Blank
import Radius.Text.Hex

namespace Radius

open Text

/-- A typed attribute value. -/
inductive Value where
  | integer (number : Int32)
  | text (content : String)
  | ipv4 (address : Ipv4)
  | octets (content : Octets)
deriving DecidableEq

namespace Value

/-- The kind of a value. -/
def kind : Value → Kind
  | integer _ => .integer
  | text _ => .text
  | ipv4 _ => .ipv4
  | octets _ => .octets

/-- The number of an integer value. -/
def integer? : Value → Option Int32
  | integer number => some number
  | _ => none

/-- The text of a text value. -/
def text? : Value → Option String
  | text content => some content
  | _ => none

/-! ### Wire form -/

/-- A number as four octets. -/
def encodeInteger (number : Int32) : Octets :=
  Octets.ofNat 4 number.toUInt32.toNat

/-- The octets of a value. -/
def encode : Value → Octets
  | integer number => encodeInteger number
  | text content => Utf8.encode content.toList
  | ipv4 address => address.octets
  | octets content => content

/-- Reads a number from exactly four octets. -/
def decodeInteger (wire : Octets) : Except AttributeError Int32 :=
  if wire.length = 4 then .ok (UInt32.ofNat wire.toNat).toInt32
  else .error (.malformed (.integerLength wire.length))

/-- Reads text from well-formed UTF-8. -/
def decodeText (wire : Octets) : Except AttributeError String :=
  match Utf8.decode wire with
  | .ok content => .ok (String.ofList content)
  | .error fault => .error (.malformed (.notText fault))

/-- Reads an address from exactly four octets. -/
def decodeIpv4 (wire : Octets) : Except AttributeError Ipv4 :=
  match Ipv4.ofOctets? wire with
  | some address => .ok address
  | none => .error (.malformed (.ipv4Length wire.length))

/-- Reads a value of the given kind. -/
def decode : Kind → Octets → Except AttributeError Value
  | .integer, wire => integer <$> decodeInteger wire
  | .text, wire => text <$> decodeText wire
  | .ipv4, wire => ipv4 <$> decodeIpv4 wire
  | .octets, wire => .ok (octets wire)

/-- The IPv4 value of an address given by its octets. -/
def ofAddress (address : Octets) : Except AttributeError Value :=
  match Ipv4.ofOctets? address with
  | some address => .ok (ipv4 address)
  | none => .error (.addressFamily address.length)

/-- A 64-bit counter as eight octets. -/
def encodeCounter (count : UInt64) : Octets :=
  Octets.ofNat 8 count.toNat

/-- Reads a 64-bit counter from exactly eight octets. -/
def decodeCounter (wire : Octets) : Except AttributeError UInt64 :=
  if wire.length = 8 then .ok (UInt64.ofNat wire.toNat)
  else .error (.malformed (.counterLength wire.length))

/-! ### Operator text -/

/-- The value as an operator reads it. -/
def render : Value → String
  | integer number => toString number
  | text content => content
  | ipv4 address => address.render
  | octets content => "0x" ++ Hex.render content

/-- Reads a number in the signed range, or else one in the unsigned range, whose upper half stands
for the negative numbers with the same bits. -/
def readInteger? (text : List Char) : Option Int32 :=
  match int32? text with
  | some number => some number
  | none => (word? text).map (·.toInt32)

/-- Reads the text an operator gives for a value of the kind. Text is taken as it stands; around the
other kinds blanks do not count. Integers may be written in the signed or the unsigned range, octets
with or without a leading `0x`. -/
def parse (kind : Kind) (input : String) : Except AttributeError Value :=
  let trimmed := trim input.toList
  match kind with
  | .integer =>
    match readInteger? trimmed with
    | some number => .ok (integer number)
    | none => .error (.unreadable .integer input)
  | .text => .ok (text input)
  | .ipv4 =>
    match Address.parse? trimmed with
    | some (.v4 address) => .ok (ipv4 address)
    | some .v6 => .error (.addressFamily 16)
    | none => .error (.unreadable .ipv4 input)
  | .octets =>
    match Hex.decode (Hex.withoutMark trimmed) with
    | .ok content => .ok (octets content)
    | .error _ => .error (.unreadable .octets input)

end Value

end Radius
