/-
# Kinds of value

The four representations an attribute value can have. Dictionaries declare them by a larger set of
type names; a name without a representation of its own is carried as opaque octets.
-/
import Radius.Text.Case

namespace Radius

/-- How the octets of a value are to be understood. -/
inductive Kind where
  /-- A 32-bit two's complement number in four octets. -/
  | integer
  /-- UTF-8 text. -/
  | text
  /-- An IPv4 address in four octets. -/
  | ipv4
  /-- Octets without further structure. -/
  | octets
deriving DecidableEq

namespace Kind

/-- The kind's name in messages and reports. -/
def name : Kind → String
  | integer => "integer"
  | text => "text"
  | ipv4 => "ipv4"
  | octets => "octets"

/-- The kind that a dictionary's type name stands for, in any letter case. -/
def ofTypeName (typeName : String) : Kind :=
  let folded := String.ofList (Text.fold typeName)
  if folded ∈ ["integer", "date", "time", "signed"] then integer
  else if folded ∈ ["string", "text"] then text
  else if folded ∈ ["ipaddr", "ipv4addr"] then ipv4
  else octets

end Kind

end Radius
