/-
# Building packets in place

A packet grows by one attribute after another, and whoever builds it keeps the packet at hand while
additions are made to it.  An addition can fail; what it has done to the packet by then is done.
-/
import Radius.Packet

namespace Radius

/-- What is added to a packet. -/
inductive Addition where
  /-- An attribute as it stands. -/
  | plain (a : Attribute)
  /-- A vendor attribute, in an attribute of its own. -/
  | vendor (v : VendorSpecific)
deriving DecidableEq

namespace Packet

/-- Work on a packet that may fail; the packet is there afterwards in either case. -/
abbrev Building := ExceptT PacketError (StateM Packet)

/-- Puts an attribute after the others. -/
def append (a : Attribute) : Building Unit :=
  modify (·.add a)

/-- Puts a vendor attribute, framed on its own, after the others. -/
def appendVendor (v : VendorSpecific) : Building Unit := do
  let a ← v.toAttribute.mapError PacketError.badAttribute
  append a

/-- Makes an addition. -/
def make : Addition → Building Unit
  | .plain a => append a
  | .vendor v => appendVendor v

/-- Makes additions one after the other, whether or not those before have failed. The results are
their outcomes. -/
def makeAll (additions : List Addition) : StateM Packet (List (Except PacketError Unit)) :=
  additions.mapM fun addition => (make addition).run

end Packet

end Radius
