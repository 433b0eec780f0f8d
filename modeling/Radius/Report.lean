/-
# Reports

What the tool answers, ready to be shown: lists of vendors and of their attributes, an encoded
attribute, decoded vendor attributes and the contents of a packet. Each report has a text form; its
JSON form is in `Radius.Report.Document`.
-/
import Radius.Validation

namespace Radius

open Text

/-- A number set right in a field of the given width. -/
def alignRight (width n : Nat) : String :=
  let digits := toString n
  String.ofList (List.replicate (width - digits.length) ' ') ++ digits

/-- A line of the list of vendors. -/
def Vendor.summary (v : Vendor) : String :=
  alignRight 6 v.id.toNat ++ "  " ++ v.name ++ s!" ({v.attributes.length} attributes)"

/-- A line of the list of a vendor's attributes, and a line for each named value below it. -/
def Definition.summary (d : Definition) : String :=
  let flags := if d.flags.isEmpty then "" else " [" ++ String.intercalate "," d.flags ++ "]"
  let values := d.values.map fun v => s!"\n       {v.name} = {v.number}"
  alignRight 3 d.code.toNat ++ "  " ++ d.name ++ "  " ++ d.typeName ++ flags ++ String.join values

/-- A vendor attribute built from an operator's text. -/
structure EncodeReport where
  vendorId : UInt32
  vendorName : String
  /-- The attribute's name as the dictionary spells it. -/
  name : String
  subType : UInt8
  tag : Option UInt8
  /-- The operator's text. -/
  text : String
  /-- The attribute of type 26 that holds the vendor attribute. -/
  wire : Octets
deriving DecidableEq

/-- What is wrong with a decoded vendor attribute. -/
inductive Problem where
  /-- Its value cannot be read. -/
  | undescribed (error : DictionaryError)
  /-- It does not pass validation. -/
  | invalid (violation : Violation)
deriving DecidableEq

/-- The problem in words. -/
def Problem.message : Problem → String
  | undescribed error => error.message
  | invalid violation => violation.message

/-- A decoded vendor attribute. -/
structure VendorReport where
  described : Described
  /-- The octets of its value. -/
  raw : Octets
  problem : Option Problem
deriving DecidableEq

/-- The note on a problem that follows a line. -/
def problemNote : Option String → String
  | some problem => "  (! " ++ problem ++ ")"
  | none => ""

/-- The vendor attribute on one line. -/
def VendorReport.render (r : VendorReport) : String :=
  r.described.render ++ problemNote (r.problem.map Problem.message)

/-- An attribute of a packet. -/
inductive AttributeReport where
  /-- An attribute that is not of type 26, with its name and its value as shown. -/
  | standard (type : UInt8) (name value : String) (problem : Option AttributeError)
  /-- An attribute of type 26 and the vendor attributes it holds. -/
  | vendor (held : List VendorReport)
  /-- An attribute of type 26 that does not hold vendor attributes. -/
  | malformed (raw : Octets) (problem : AttributeError)
deriving DecidableEq

/-- The attribute, each line set in by two spaces. -/
def AttributeReport.render : AttributeReport → String
  | standard _ name value problem =>
    "  " ++ name ++ " = " ++ value ++ problemNote (problem.map AttributeError.message)
  | vendor held => String.intercalate "\n" (held.map fun r => "  " ++ r.render)
  | malformed raw problem =>
    "  Vendor-Specific = 0x" ++ Hex.render raw ++ "  (dropped: " ++ problem.message ++ ")"

/-- The contents of a packet. -/
structure PacketReport where
  code : Code
  identifier : UInt8
  /-- The number of octets of the packet without its padding. -/
  length : Nat
  authenticator : Octets
  /-- One report for each attribute, in order. -/
  attributes : List AttributeReport
deriving DecidableEq

/-- The packet on one line, and its attributes below. -/
def PacketReport.render (r : PacketReport) : String :=
  s!"{r.code.name} (id {r.identifier}, {r.length} bytes)"
    ++ String.join (r.attributes.map fun a => "\n" ++ a.render)

/-- Why each malformed attribute was dropped, in order. -/
def PacketReport.dropped (r : PacketReport) : List AttributeError :=
  r.attributes.filterMap fun
    | .malformed _ problem => some problem
    | _ => none

end Radius
