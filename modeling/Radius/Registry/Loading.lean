/-
# Loading into registries

Dictionary text is read into a registry as it is read into a dictionary, line by line and with the
same faults; every vendor and every attribute that a line refers to is found through the indexes.
-/
import Radius.Dictionary.Builtin
import Radius.Registry

namespace Radius

open Text

/-- The state between two lines: the registry so far and the block that is open. -/
structure Registrar where
  registry : Registry
  block : Option Block := none

namespace Registrar

/-- The state without the indexes. -/
def loader (s : Registrar) : Loader where
  dictionary := s.registry.dictionary
  block := s.block

/-- Declares a vendor. -/
def declareVendor (s : Registrar) (name number : String) (format : Option String) :
    Except SourceFault Registrar := do
  let id ← UInt32.ofNat <$> sourceNat UInt32.size number
  match format.filter (· ≠ "format=1,1") with
  | some format => .error (.unsupportedFormat name format)
  | none =>
    match s.registry.declare? name id with
    | some registry => .ok { s with registry }
    | none => .error (.duplicateVendor name id)

/-- Opens a block at the given line. -/
def beginBlock (s : Registrar) (line : Nat) (name : String) : Except SourceError Registrar :=
  match s.block with
  | some block => .error ⟨block.line, .unclosedBlock block.name⟩
  | none =>
    match s.registry.vendorNamed? name with
    | some t => .ok { s with block := some ⟨name, t.id, line⟩ }
    | none => .error ⟨line, .unknownVendor name⟩

/-- Closes the open block. -/
def endBlock (s : Registrar) (name : String) : Except SourceFault Registrar :=
  match s.block with
  | some block =>
    if sameName block.name name then .ok { s with block := none }
    else .error (.mismatchedEnd block.name name)
  | none => .error (.mismatchedEnd "<none>" name)

/-- The number and the name of the vendor to which an attribute belongs, and the field that holds
its flags: the vendor that the fourth field names, or else that of the open block. -/
def target (s : Registrar) (name : String) (fourth fifth : Option String) :
    Except SourceFault (UInt32 × String × Option String) :=
  match fourth.bind s.registry.vendorNamed?, s.block with
  | some t, _ => .ok (t.id, t.name, fifth)
  | none, some block => .ok (block.vendor, block.name, fourth)
  | none, none =>
    match fourth with
    | some vendor => .error (.unknownVendor vendor)
    | none => .error (.outsideBlock name)

/-- Declares an attribute. -/
def declareAttribute (s : Registrar) (name code typeName : String)
    (fourth fifth : Option String) : Except SourceFault Registrar := do
  let (id, vendor, flags) ← s.target name fourth fifth
  let code ← UInt8.ofNat <$> sourceNat UInt8.size code
  if code = 0 then .error (.reservedCode name)
  else
    match s.registry.vendor? id with
    | none => .error (.unknownVendor vendor)
    | some t =>
      match t.insert { name, code, typeName, flags := Loader.splitFlags flags } with
      | .ok t => .ok { s with registry := s.registry.update id t }
      | .error d => .error (.duplicateAttribute d.name d.code)

/-- The number of the vendor for whose attribute a value is declared. -/
def valueVendor? (s : Registrar) (owner : String) : Option UInt32 :=
  match s.block with
  | some block => some block.vendor
  | none => (s.registry.tables.find? fun t => (t.attribute? owner).isSome).map (·.id)

/-- Declares a named value of the attribute `owner`. -/
def declareValue (s : Registrar) (owner name number : String) : Except SourceFault Registrar :=
  match (sourceNumber? number).bind pattern32? with
  | none => .error (.invalidNumber number)
  | some number =>
    match s.valueVendor? owner with
    | none => .error (.unknownAttribute owner)
    | some id =>
      match s.registry.vendor? id with
      | none => .error (.unknownAttribute owner)
      | some t =>
        match t.attribute? owner with
        | none => .error (.unknownAttribute owner)
        | some d =>
          if d.kind ≠ .integer then .error (.valueForNonInteger owner name)
          else
            .ok { s with
              registry := s.registry.update id (t.modify owner (·.declareValue name number)) }

/-- Carries out a directive that stands on the given line. -/
def apply (s : Registrar) (line : Nat) (directive : Directive) : Except SourceError Registrar :=
  match directive with
  | .declareVendor name number format => (s.declareVendor name number format).mapError (⟨line, ·⟩)
  | .beginBlock name => s.beginBlock line name
  | .endBlock name => (s.endBlock name).mapError (⟨line, ·⟩)
  | .declareAttribute name code typeName fourth fifth =>
    (s.declareAttribute name code typeName fourth fifth).mapError (⟨line, ·⟩)
  | .declareValue owner name number =>
    (s.declareValue owner name number).mapError (⟨line, ·⟩)
  | .unsupported _ => .ok s

/-- Reads a line. -/
def step (s : Registrar) (line : SourceLine) : Except SourceError Registrar :=
  match line.words with
  | [] => .ok s
  | keyword :: fields =>
    match Directive.ofWords keyword fields with
    | .ok directive => s.apply line.number directive
    | .error fault => .error ⟨line.number, fault⟩

/-- Reads lines up to the first fault. -/
def run (s : Registrar) : List SourceLine → Except SourceError Registrar
  | [] => .ok s
  | line :: rest =>
    match s.step line with
    | .ok s => s.run rest
    | .error e => .error e

/-- The registry at the end of the text, where no block may be open. -/
def finish (s : Registrar) : Except SourceError Registry :=
  match s.block with
  | none => .ok s.registry
  | some block => .error ⟨block.line, .unclosedBlock block.name⟩

end Registrar

namespace Registry

/-- The registry with the definitions of a text added. Blocks may extend the vendors that are
there. -/
def load (r : Registry) (text : String) : Except SourceError Registry := do
  let s ← Registrar.run ⟨r, none⟩ (SourceLine.ofText text)
  s.finish

/-- The registry that a text makes on its own. -/
def parse (text : String) : Except SourceError Registry :=
  empty.load text

/-- The registry with the definitions of a file added, where `read` gives the text of files. -/
def loadFile (r : Registry) (read : String → Except FileFailure String) (path : String) :
    Except FileError Registry :=
  match read path with
  | .error failure => .error (.unreadable path failure)
  | .ok text => (r.load text).mapError (.refused path)

/-- The registry with the definitions of files added, one file after the other, where each file
stands with its text. The first that has a fault is reported. -/
def loadAll (r : Registry) (files : List (String × String)) : Except FileError Registry :=
  files.foldlM (fun r (path, text) => (r.load text).mapError (.refused path)) r

/-- Loads the built-in registry. -/
def loadBuiltin : Except FileError Registry :=
  empty.loadAll Builtin.files

/-- The built-in registry; none of its files has a fault. -/
def builtin : Registry :=
  loadBuiltin.toOption.getD empty

end Registry

end Radius
