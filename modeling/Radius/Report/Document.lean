/-
# Reports as JSON

The members of each report in the order in which they are written. Members without a value, and
empty lists of flags and of named values, are left out.
-/
import Radius.Json
import Radius.Report

namespace Radius

open Text

/-- A number of an integer type as JSON. -/
def Json.nat (n : Nat) : Json :=
  .number n

/-- A line of the list of vendors. -/
def Vendor.document (v : Vendor) : Json :=
  .object [
    ("vendor_id", .nat v.id.toNat),
    ("name", .string v.name),
    ("attributes", .nat v.attributes.length)]

/-- A named value. -/
def NamedValue.document (v : NamedValue) : Json :=
  .object [("name", .string v.name), ("value", .number v.number.toInt)]

/-- A list that is left out if it is empty. -/
def Json.list? (items : List Json) : Option Json :=
  if items.isEmpty then none else some (.array items)

/-- A line of the list of a vendor's attributes. -/
def Definition.document (d : Definition) : Json :=
  .object ([
    ("code", .nat d.code.toNat),
    ("name", .string d.name),
    ("type", .string d.typeName),
    ("kind", .string d.kind.name)]
    ++ Json.member? "flags" (Json.list? (d.flags.map .string))
    ++ Json.member? "values" (Json.list? (d.values.map NamedValue.document)))

/-- A tag, if there is one. -/
def tagMember (tag : Option UInt8) : List (String × Json) :=
  Json.member? "tag" (tag.map fun tag => .nat tag.toNat)

/-- An encoded vendor attribute. -/
def EncodeReport.document (r : EncodeReport) : Json :=
  .object ([
    ("vendor_id", .nat r.vendorId.toNat),
    ("vendor", .string r.vendorName),
    ("attribute", .string r.name),
    ("sub_type", .nat r.subType.toNat)]
    ++ tagMember r.tag ++ [
    ("value", .string r.text),
    ("hex", .string (Hex.render r.wire))])

/-- A decoded vendor attribute. -/
def VendorReport.document (r : VendorReport) : Json :=
  let d := r.described
  .object (
    [("vendor_id", .nat d.vendorId.toNat)]
    ++ Json.member? "vendor" (d.vendorName.map .string)
    ++ [("sub_type", .nat d.subType.toNat), ("name", .string d.displayName)]
    ++ tagMember d.tag
    ++ [("value", .string d.value.render)]
    ++ Json.member? "value_name" (d.valueName.map .string)
    ++ [("raw", .string (Hex.render r.raw))]
    ++ Json.member? "problem" (r.problem.map fun p => .string p.message))

/-- An attribute of a packet. -/
def AttributeReport.document : AttributeReport → Json
  | standard type name value problem =>
    .object ([
      ("kind", .string "standard"),
      ("attr_type", .nat type.toNat),
      ("name", .string name),
      ("value", .string value)]
      ++ Json.member? "problem" (problem.map fun e => .string e.message))
  | vendor held =>
    .object [
      ("kind", .string "vendor"),
      ("attributes", .array (held.map VendorReport.document))]
  | malformed raw problem =>
    .object [
      ("kind", .string "malformed"),
      ("raw", .string (Hex.render raw)),
      ("problem", .string problem.message)]

/-- The contents of a packet. -/
def PacketReport.document (r : PacketReport) : Json :=
  .object [
    ("code", .string r.code.name),
    ("code_number", .nat r.code.toUInt8.toNat),
    ("identifier", .nat r.identifier.toNat),
    ("length", .nat r.length),
    ("authenticator", .string (Hex.render r.authenticator)),
    ("attributes", .array (r.attributes.map AttributeReport.document))]

end Radius
