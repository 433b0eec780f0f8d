/-
# Loading dictionary text

Directives add to a dictionary one after the other. `VENDOR` declares a vendor; `BEGIN-VENDOR` and
`END-VENDOR` enclose the attributes and values of one; an attribute may also name its vendor in a
field of its own, and a value outside a block belongs to the first vendor that has its attribute.
Loading stops at the first fault, and a text with a fault changes nothing. Other directives are
skipped, and `skipped` lists them.
-/
import Radius.Dictionary
import Radius.Dictionary.Source

namespace Radius

open Text

/-- An open vendor block. -/
structure Block where
  /-- The vendor's name as the block's first line spells it. -/
  name : String
  vendor : UInt32
  /-- The number of the block's first line. -/
  line : Nat
deriving DecidableEq

/-- The state between two lines: the dictionary so far and the block that is open. -/
structure Loader where
  dictionary : Dictionary
  block : Option Block := none
deriving DecidableEq

/-- A number in dictionary text, of at most 64 bits: hexadecimal after `0x` or `0X`, else decimal,
with an optional sign. -/
def sourceNumber? (text : String) : Option Int64 :=
  match text.toList with
  | '0' :: 'x' :: digits => int64? 16 digits
  | '0' :: 'X' :: digits => int64? 16 digits
  | digits => int64? 10 digits

/-- A number in dictionary text, from 0 up to but not including `bound`. -/
def sourceNat (bound : Nat) (text : String) : Except SourceFault Nat :=
  match (sourceNumber? text).map Int64.toInt with
  | some (.ofNat n) => if n < bound then .ok n else .error (.invalidNumber text)
  | _ => .error (.invalidNumber text)

/-- A number of 64 bits in 32 bits: one in the signed range, or else the pattern of one in the
unsigned range. -/
def pattern32? (n : Int64) : Option Int32 :=
  if Int32.minValue.toInt64 ≤ n ∧ n ≤ Int32.maxValue.toInt64 then some n.toInt32
  else if 0 ≤ n ∧ n < 0x100000000 then some n.toUInt64.toUInt32.toInt32
  else none

namespace Loader

/-- Declares a vendor. -/
def declareVendor (s : Loader) (name number : String) (format : Option String) :
    Except SourceFault Loader := do
  let id ← UInt32.ofNat <$> sourceNat UInt32.size number
  match format.filter (· ≠ "format=1,1") with
  | some format => .error (.unsupportedFormat name format)
  | none =>
    match s.dictionary.declare? name id with
    | some dictionary => .ok { s with dictionary }
    | none => .error (.duplicateVendor name id)

/-- Opens a block at the given line. -/
def beginBlock (s : Loader) (line : Nat) (name : String) : Except SourceError Loader :=
  match s.block with
  | some block => .error ⟨block.line, .unclosedBlock block.name⟩
  | none =>
    match s.dictionary.vendorNamed? name with
    | some v => .ok { s with block := some ⟨name, v.id, line⟩ }
    | none => .error ⟨line, .unknownVendor name⟩

/-- Closes the open block. -/
def endBlock (s : Loader) (name : String) : Except SourceFault Loader :=
  match s.block with
  | some block =>
    if sameName block.name name then .ok { s with block := none }
    else .error (.mismatchedEnd block.name name)
  | none => .error (.mismatchedEnd "<none>" name)

/-- The vendor to which an attribute belongs and the field that holds its flags: the vendor that the
fourth field names, or else that of the open block. -/
def target (s : Loader) (name : String) (fourth fifth : Option String) :
    Except SourceFault (Vendor × Option String) :=
  -- inside a block a fourth field that names no vendor holds flags
  match fourth.bind s.dictionary.vendorNamed?, s.block with
  | some v, _ => .ok (v, fifth)
  | none, some block =>
    match s.dictionary.vendor? block.vendor with
    | some v => .ok (v, fourth)
    | none => .error (.unknownVendor block.name)
  | none, none =>
    match fourth with
    | some vendor => .error (.unknownVendor vendor)
    | none => .error (.outsideBlock name)

/-- The flags in a field: what stands between its commas. -/
def splitFlags (field : Option String) : List String :=
  match field with
  | some field => (field.toList.splitOn ',').map String.ofList
  | none => []

/-- Declares an attribute. -/
def declareAttribute (s : Loader) (name code typeName : String) (fourth fifth : Option String) :
    Except SourceFault Loader := do
  let (v, flags) ← s.target name fourth fifth
  let code ← UInt8.ofNat <$> sourceNat UInt8.size code
  if code = 0 then .error (.reservedCode name)
  else
    match v.insert { name, code, typeName, flags := splitFlags flags } with
    | .ok v => .ok { s with dictionary := s.dictionary.update v }
    | .error d => .error (.duplicateAttribute d.name d.code)

/-- The vendor for whose attribute a value is declared. -/
def valueVendor? (s : Loader) (owner : String) : Option Vendor :=
  match s.block with
  | some block => s.dictionary.vendor? block.vendor
  | none => s.dictionary.vendors.find? fun v => (v.attribute? owner).isSome

/-- Declares a named value of the attribute `owner`. -/
def declareValue (s : Loader) (owner name number : String) : Except SourceFault Loader :=
  match (sourceNumber? number).bind pattern32? with
  | none => .error (.invalidNumber number)
  | some number =>
    match s.valueVendor? owner with
    | none => .error (.unknownAttribute owner)
    | some v =>
      match v.attribute? owner with
      | none => .error (.unknownAttribute owner)
      | some d =>
        if d.kind ≠ .integer then .error (.valueForNonInteger owner name)
        else .ok { s with dictionary := s.dictionary.update (v.replace (d.declareValue name number)) }

/-- Carries out a directive that stands on the given line. -/
def apply (s : Loader) (line : Nat) (directive : Directive) : Except SourceError Loader :=
  match directive with
  | .declareVendor name number format => (s.declareVendor name number format).mapError (⟨line, ·⟩)
  | .beginBlock name => s.beginBlock line name
  | .endBlock name => (s.endBlock name).mapError (⟨line, ·⟩)
  | .declareAttribute name code typeName fourth fifth =>
    (s.declareAttribute name code typeName fourth fifth).mapError (⟨line, ·⟩)
  | .declareValue owner name number =>
    (s.declareValue owner name number).mapError (⟨line, ·⟩)
  | .unsupported _ => .ok s

/-- Reads a line. -/
def step (s : Loader) (line : SourceLine) : Except SourceError Loader :=
  match line.words with
  | [] => .ok s
  | keyword :: fields =>
    match Directive.ofWords keyword fields with
    | .ok directive => s.apply line.number directive
    | .error fault => .error ⟨line.number, fault⟩

/-- Reads lines up to the first fault. -/
def run (s : Loader) : List SourceLine → Except SourceError Loader
  | [] => .ok s
  | line :: rest =>
    match s.step line with
    | .ok s => s.run rest
    | .error e => .error e

/-- The dictionary at the end of the text, where no block may be open. -/
def finish (s : Loader) : Except SourceError Dictionary :=
  match s.block with
  | none => .ok s.dictionary
  | some block => .error ⟨block.line, .unclosedBlock block.name⟩

end Loader

/-- A directive that was skipped. -/
structure Skipped where
  /-- The number of its line. -/
  line : Nat
  keyword : String
deriving DecidableEq

/-- The directive that a line has skipped, if it is none of those supported. -/
def SourceLine.skipped? (line : SourceLine) : Option Skipped :=
  match line.words with
  | [] => none
  | keyword :: fields =>
    match Directive.ofWords keyword fields with
    | .ok (.unsupported keyword) => some ⟨line.number, keyword⟩
    | _ => none

/-- The directives skipped on the way to the first fault. -/
def Loader.skipped (s : Loader) : List SourceLine → List Skipped
  | [] => []
  | line :: rest =>
    match s.step line with
    | .ok s => line.skipped?.toList ++ s.skipped rest
    | .error _ => []

namespace Dictionary

/-- The dictionary with the definitions of a text added. Blocks may extend the vendors that are
there. -/
def load (d : Dictionary) (text : String) : Except SourceError Dictionary := do
  let s ← Loader.run ⟨d, none⟩ (SourceLine.ofText text)
  s.finish

/-- The directives of a text that loading skips. -/
def skipped (d : Dictionary) (text : String) : List Skipped :=
  Loader.skipped ⟨d, none⟩ (SourceLine.ofText text)

/-- The dictionary that a text makes on its own. -/
def parse (text : String) : Except SourceError Dictionary :=
  empty.load text

/-- The dictionary with the definitions of a file added, where `read` gives the text of files. -/
def loadFile (d : Dictionary) (read : String → Except FileFailure String) (path : String) :
    Except FileError Dictionary :=
  match read path with
  | .error failure => .error (.unreadable path failure)
  | .ok text => (d.load text).mapError (.refused path)

end Dictionary

end Radius
