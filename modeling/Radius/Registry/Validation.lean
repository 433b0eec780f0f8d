/-
# Describing and validating through the indexes

A registry describes and validates a vendor attribute by the table under the number of its vendor
and, in that table, by the definition to which the index of codes leads.  A table describes
attributes of its own vendor only, so a registry relies on every table standing under the number of
its vendor.
-/
import Radius.Registry
import Radius.Validation

namespace Radius

/-- Describes a vendor attribute of this vendor. One that is not in the table is opaque. -/
def Table.describe (t : Table) (a : VendorSpecific) : Except DictionaryError Described :=
  if a.vendor ≠ t.id then .error (.otherVendor t.id a.vendor)
  else
    match t.attributeOf? a.subType with
    | none => .ok { Described.unknown a with vendorName := some t.name }
    | some d =>
      match d.decodeValue a.value with
      | .error e => .error (.badAttribute e)
      | .ok (tag, value) =>
        .ok {
          vendorId := t.id
          vendorName := some t.name
          subType := a.subType
          name := some d.name
          tag := tag
          value := value
          valueName := value.integer?.bind d.nameOf? }

namespace Registry

/-- Describes a vendor attribute. One of an unknown vendor is opaque. -/
def describe (r : Registry) (a : VendorSpecific) : Except DictionaryError Described :=
  match r.vendor? a.vendor with
  | some t => t.describe a
  | none => .ok (Described.unknown a)

/-- What is wrong with a vendor attribute; none if it is valid. -/
def violation? (r : Registry) (mode : Mode) (a : VendorSpecific) : Option Violation :=
  match r.vendor? a.vendor with
  | none =>
    match mode with
    | .strict => some (.unknownVendor a.vendor)
    | .lenient => none
  | some t =>
    match t.attributeOf? a.subType with
    | none =>
      match mode with
      | .strict => some (.unknownAttribute t.name a.subType)
      | .lenient => none
    | some definition => definition.violation? mode a.value

end Registry

end Radius
