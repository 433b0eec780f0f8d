/-
# Vendors

A vendor's table of attribute definitions, in which no two have the same name or the same code. From
a table vendor attributes are built, out of values or out of text, and described.
-/
import Radius.Dictionary.Definition
import Radius.VendorSpecific

namespace Radius

open Text

/-- A vendor and the definitions of its attributes. -/
structure Vendor where
  name : String
  /-- The number that stands for the vendor on the wire. -/
  id : UInt32
  /-- The definitions, in the order of their declaration. -/
  attributes : List Definition := []
deriving DecidableEq

/-- A vendor attribute as a dictionary describes it. -/
structure Described where
  vendorId : UInt32
  /-- The vendor's name, if the dictionary knows the vendor. -/
  vendorName : Option String
  subType : UInt8
  /-- The attribute's name, if the dictionary knows the attribute. -/
  name : Option String
  tag : Option UInt8
  value : Value
  /-- The name of the value, if it is a number with a name. -/
  valueName : Option String
deriving DecidableEq

namespace Described

/-- What can be said of a vendor attribute without a definition: its value is opaque. -/
def unknown (v : VendorSpecific) : Described where
  vendorId := v.vendor
  vendorName := none
  subType := v.subType
  name := none
  tag := none
  value := .octets v.value
  valueName := none

/-- The attribute's name, or `Attr-26.` with the two numbers, and the tag after a colon. -/
def displayName (d : Described) : String :=
  let name := d.name.getD s!"Attr-26.{d.vendorId}.{d.subType}"
  match d.tag with
  | some tag => s!"{name}:{tag}"
  | none => name

/-- The attribute with its value, by name where the value has one. -/
def render (d : Described) : String :=
  d.displayName ++ " = " ++ d.valueName.getD d.value.render

end Described

/-- Splits an attribute's name from the tag that may follow its last colon. -/
def splitTag (spec : String) : Except DictionaryError (String × Option UInt8) :=
  let reversed := spec.toList.reverse
  match reversed.dropWhile (· != ':') with
  | [] => .ok (spec, none)
  | _ :: name =>
    match octet? (reversed.takeWhile (· != ':')).reverse with
    | some tag => .ok (String.ofList name.reverse, some tag)
    | none => .error (.unreadableTag spec)

namespace Vendor

/-- The definition of a name, in any letter case. -/
def attribute? (v : Vendor) (name : String) : Option Definition :=
  v.attributes.find? fun d => sameName d.name name

/-- The definition of a code. -/
def attributeOf? (v : Vendor) (code : UInt8) : Option Definition :=
  v.attributes.find? fun d => d.code == code

/-- The table with a definition after the others; the definition itself if its name or its code is
taken. -/
def insert (v : Vendor) (d : Definition) : Except Definition Vendor :=
  if (v.attribute? d.name).isSome ∨ (v.attributeOf? d.code).isSome then .error d
  else .ok { v with attributes := v.attributes ++ [d] }

/-- The table with another definition in place of the first of its name. -/
def replace (v : Vendor) (d : Definition) : Vendor :=
  { v with attributes := go v.attributes }
where
  /-- Replaces the first definition of the name. -/
  go : List Definition → List Definition
    | [] => []
    | e :: rest => if sameName e.name d.name then d :: rest else e :: go rest

/-- The definition of a name that must be there. -/
def require (v : Vendor) (name : String) : Except DictionaryError Definition :=
  match v.attribute? name with
  | some d => .ok d
  | none => .error (.unknownAttribute v.name name)

/-- The vendor attribute of a definition with the given value and tag. -/
def frame (v : Vendor) (d : Definition) (tag : Option UInt8) (value : Value) :
    Except DictionaryError VendorSpecific := do
  let wire ← d.encodeValue tag value
  (VendorSpecific.new v.id d.code wire).mapError .badAttribute

/-- Builds a vendor attribute from the name of an attribute, with a tag after a colon if it takes
one, and a value of the attribute's kind. -/
def build (v : Vendor) (spec : String) (value : Value) :
    Except DictionaryError VendorSpecific := do
  let (name, tag) ← splitTag spec
  let d ← v.require name
  v.frame d tag value

/-- The value that an operator's text stands for: of an integer attribute the name of a value or a
number, of any other attribute whatever its kind accepts. -/
def readValue (d : Definition) (text : String) : Except AttributeError Value :=
  match d.kind, d.number? (String.ofList (trim text.toList)) with
  | .integer, some number => .ok (.integer number)
  | kind, _ => Value.parse kind text

/-- Builds a vendor attribute from the name of an attribute, with a tag after a colon if it takes
one, and an operator's text. -/
def buildFromText (v : Vendor) (spec text : String) : Except DictionaryError VendorSpecific := do
  let (name, tag) ← splitTag spec
  let d ← v.require name
  let value ← (readValue d text).mapError .badAttribute
  v.frame d tag value

/-- Describes a vendor attribute of this vendor. One that is not in the table is opaque. -/
def describe (v : Vendor) (a : VendorSpecific) : Except DictionaryError Described :=
  if a.vendor ≠ v.id then .error (.otherVendor v.id a.vendor)
  else
    match v.attributeOf? a.subType with
    | none => .ok { Described.unknown a with vendorName := some v.name }
    | some d =>
      match d.decodeValue a.value with
      | .error e => .error (.badAttribute e)
      | .ok (tag, value) =>
        .ok {
          vendorId := v.id
          vendorName := some v.name
          subType := a.subType
          name := some d.name
          tag := tag
          value := value
          valueName := value.integer?.bind d.nameOf? }

end Vendor

end Radius
