/-
# The program

What the tool prints for a command line. The program sees files through a `Host`, so that the whole
of its behaviour is a function: what it reads and whether it may write are given, and the file it
writes is part of the outcome.
-/
import Radius.CommandLine
import Radius.Query
import Radius.Report.Document
import Radius.Settings

namespace Radius

/-- The files around the program. -/
structure Host where
  /-- The text of a file. -/
  read : String → Except FileFailure String
  /-- Why a file cannot be written; none if it can. -/
  writeFailure : String → Option FileFailure

/-- A file to be written. -/
structure FileWrite where
  path : String
  text : String
deriving DecidableEq

/-- What a run of the program comes to. -/
structure Outcome where
  status : Nat
  output : String := ""
  /-- What is said on standard error. -/
  complaint : String := ""
  write : Option FileWrite := none
deriving DecidableEq

/-- Why a command fails. -/
inductive CommandError where
  | settings (error : SettingsError)
  | query (error : QueryError)
deriving DecidableEq

/-- The cause in words. -/
def CommandError.message : CommandError → String
  | settings error => "Configuration error: " ++ error.message
  | query error => error.message

namespace Program

/-- The name of the program and its version. -/
def versionLine : String := "radius-vsa 0.1.0\n"

/-- How the program is used. -/
def usage : String :=
  "Usage: radius-vsa [-c CONFIG] [-d FILE]... [--json] [--lenient] COMMAND\n\n" ++
  "Commands:\n" ++
  "  vendors\n" ++
  "  attributes VENDOR\n" ++
  "  encode VENDOR ATTRIBUTE VALUE\n" ++
  "  decode HEX\n" ++
  "  inspect HEX\n" ++
  "  init-config [PATH]\n"

/-- The settings of an invocation: those of its file, or else the defaults, amended by its own
options. -/
def settings (host : Host) (i : Invocation) : Except SettingsError Settings := do
  let s ←
    match i.config with
    | some path => Settings.ofFile host.read path
    | none => .ok {}
  (s.amended i.dictionaries i.lenient).checked

/-- A document as printed. -/
def printDocument (document : Json) : String :=
  document.render ++ "\n"

/-- Reports as printed: a document, or each on lines of its own. -/
def printAll {α : Type} (json : Bool) (document : α → Json) (text : α → String)
    (reports : List α) : String :=
  if json then printDocument (.array (reports.map document))
  else String.join (reports.map fun r => text r ++ "\n")

/-- A report as printed. -/
def print {α : Type} (json : Bool) (document : α → Json) (text : α → String) (report : α) : String :=
  if json then printDocument (document report) else text report ++ "\n"

/-- What a query prints. -/
def answer (d : Dictionary) (mode : Mode) (json : Bool) : Command → Except QueryError String
  | .vendors => .ok (printAll json Vendor.document Vendor.summary d.vendors)
  | .attributes vendor =>
    printAll json Definition.document Definition.summary <$> d.attributesOf vendor
  | .encode vendor spec text =>
    print json EncodeReport.document (fun r => Text.Hex.render r.wire) <$>
      d.encodeText vendor spec text
  | .decode input =>
    printAll json VendorReport.document VendorReport.render <$> d.decodePasted mode input
  | .inspect input =>
    print json PacketReport.document PacketReport.render <$> d.inspectPasted mode input
  | .initConfig _ => .ok ""

/-- What an invocation prints, unless it only writes settings. -/
def query (host : Host) (i : Invocation) : Except CommandError String := do
  let s ← (settings host i).mapError .settings
  let d ← (s.loadDictionary host.read).mapError .settings
  (answer d s.mode i.json i.command).mapError .query

/-- The outcome of a failed command. -/
def failure (error : CommandError) : Outcome where
  status := 1
  complaint := "Error: " ++ error.message ++ "\n"

/-- Writes settings to start from. -/
def writeSample (host : Host) (path : String) : Outcome :=
  match host.writeFailure path with
  | some cause => failure (.settings (.file cause))
  | none => {
      status := 0
      output := "Wrote example configuration to " ++ path ++ "\n"
      write := some ⟨path, Settings.sample.document.render⟩ }

/-- Carries out an invocation. -/
def invoke (host : Host) (i : Invocation) : Outcome :=
  match i.command with
  | .initConfig path => writeSample host path
  | _ =>
    match query host i with
    | .ok output => { status := 0, output }
    | .error e => failure e

/-- Does what is asked for. -/
def respond (host : Host) : Request → Outcome
  | .run i => invoke host i
  | .version => { status := 0, output := versionLine }
  | .help => { status := 0, output := usage }
  | .misuse => { status := 2, complaint := usage }

/-- Runs the program with the given arguments. -/
def run (host : Host) (arguments : List String) : Outcome :=
  respond host (CommandLine.read arguments)

end Program

end Radius
