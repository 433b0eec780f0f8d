/-
# Dictionaries

A dictionary is a set of vendors with distinct numbers and, whatever the letter case, distinct
names. They are kept in ascending order of their numbers.
-/
import Radius.Dictionary.Vendor

namespace Radius

open Text

/-- A set of vendors, in ascending order of their numbers. -/
structure Dictionary where
  vendors : List Vendor := []
deriving DecidableEq

namespace Dictionary

/-- The dictionary without vendors. -/
def empty : Dictionary := ⟨[]⟩

/-- The vendor with a number. -/
def vendor? (d : Dictionary) (id : UInt32) : Option Vendor :=
  d.vendors.find? fun v => v.id == id

/-- The vendor with a name, in any letter case. -/
def vendorNamed? (d : Dictionary) (name : String) : Option Vendor :=
  d.vendors.find? fun v => sameName v.name name

/-- The vendor that an operator refers to, by its name or else by its decimal number. -/
def resolve (d : Dictionary) (text : String) : Except DictionaryError Vendor :=
  match d.vendorNamed? text with
  | some v => .ok v
  | none =>
    match (word? text.toList).bind d.vendor? with
    | some v => .ok v
    | none => .error (.unknownVendor text)

/-- Puts a vendor before the first one with a greater number. -/
def place (v : Vendor) : List Vendor → List Vendor
  | [] => [v]
  | w :: rest => if v.id < w.id then v :: w :: rest else w :: place v rest

/-- The dictionary with a vendor in place of those that have its number or its name. -/
def put (d : Dictionary) (v : Vendor) : Dictionary :=
  ⟨place v (d.vendors.filter fun w => !(w.id == v.id || sameName w.name v.name))⟩

/-- The dictionary with another table in place of the one with the same number. -/
def update (d : Dictionary) (v : Vendor) : Dictionary :=
  ⟨d.vendors.map fun w => if w.id = v.id then v else w⟩

/-- The dictionary with a vendor of the given name and number, added without attributes unless it is
there; none if another vendor has the name or the number. -/
def declare? (d : Dictionary) (name : String) (id : UInt32) : Option Dictionary :=
  match d.vendorNamed? name, d.vendor? id with
  | none, none => some ⟨place { name, id } d.vendors⟩
  | some v, some w => if v.id = id ∧ sameName w.name name then some d else none
  | _, _ => none

/-- Lays another dictionary over this one: its vendors take the place of those that have one of
their numbers or names. -/
def merge (d other : Dictionary) : Dictionary :=
  other.vendors.foldl put d

/-- Describes a vendor attribute. One of an unknown vendor is opaque. -/
def describe (d : Dictionary) (a : VendorSpecific) : Except DictionaryError Described :=
  match d.vendor? a.vendor with
  | some v => v.describe a
  | none => .ok (Described.unknown a)

end Dictionary

end Radius
