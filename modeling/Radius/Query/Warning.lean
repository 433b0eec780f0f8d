/-
# Inspecting with warnings

Whoever inspects a packet is warned of each attribute that cannot be read, at the time the report
comes to it.  Warnings go to a log, after those that are there.
-/
import Radius.Query

namespace Radius

/-- A warning that a malformed attribute was dropped. -/
structure DropWarning where
  /-- What is wrong with the attribute, in words. -/
  cause : String
deriving DecidableEq

namespace Dictionary

/-- The report on an attribute of a packet, with a warning if it is malformed. -/
def reportWarned (d : Dictionary) (mode : Mode) (a : Attribute) :
    StateM (List DropWarning) AttributeReport := do
  if a.type = StandardType.vendorSpecific then
    match VendorSpecific.allOfAttribute a with
    | .ok held => return .vendor (held.map (d.reportVendor mode))
    | .error e =>
      modify (· ++ [⟨e.message⟩])
      return .malformed a.value e
  else return reportStandard a

/-- The report on a packet, with the warnings of its attributes. -/
def inspectWarned (d : Dictionary) (mode : Mode) (p : Packet) :
    StateM (List DropWarning) PacketReport := do
  let attributes ← p.attributes.mapM (d.reportWarned mode)
  return {
    code := p.code
    identifier := p.identifier
    length := p.length
    authenticator := p.authenticator.octets
    attributes }

/-- The report on a packet pasted in hexadecimal, with the warnings of its attributes. -/
def inspectPastedWarned (d : Dictionary) (mode : Mode) (input : String) :
    ExceptT QueryError (StateM (List DropWarning)) PacketReport := do
  let octets ← readPasted input
  let p ← (Packet.decode octets).mapError QueryError.packet
  d.inspectWarned mode p

end Dictionary

end Radius
