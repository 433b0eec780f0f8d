/-
# Encoding through the indexes

A registry encodes an operator's text by the table to which the index of names leads, or else the
number, and by the definition to which the table's index of names leads.
-/
import Radius.Query
import Radius.Registry

namespace Radius

open Text

namespace Table

/-- The definition of a name that must be there. -/
def require (t : Table) (name : String) : Except DictionaryError Definition :=
  match t.attribute? name with
  | some d => .ok d
  | none => .error (.unknownAttribute t.name name)

/-- Builds a vendor attribute from the name of an attribute, with a tag after a colon if it takes
one, and an operator's text. -/
def buildFromText (t : Table) (spec text : String) : Except DictionaryError VendorSpecific := do
  let (name, tag) ← splitTag spec
  let d ← t.require name
  let value ← (Vendor.readValue d text).mapError .badAttribute
  let wire ← d.encodeValue tag value
  (VendorSpecific.new t.id d.code wire).mapError .badAttribute

end Table

/-- Encodes an operator's text as the value of an attribute, given by the vendor's name or number
and the attribute's name, with a tag after a colon if it takes one. -/
def Registry.encodeText (r : Registry) (vendor spec text : String) :
    Except QueryError EncodeReport := do
  let t ← (r.resolve vendor).mapError .dictionary
  let a ← (t.buildFromText spec text).mapError .dictionary
  let wire ← a.encode.mapError .vendorSpecific
  let (name, tag) ← (splitTag spec).mapError .dictionary
  return {
    vendorId := t.id
    vendorName := t.name
    name := ((t.attribute? name).map (·.name)).getD name
    subType := a.subType
    tag := tag
    text := text
    wire := wire }

end Radius
