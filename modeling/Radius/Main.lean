/-
# Running the program

The outer layer: it reads the files that an invocation may need, lets the program work out what to
do, and does it.
-/
import Radius.Program

namespace Radius.Main

/-- A failure of the system in the library's terms. -/
def failureOf : IO.Error → FileFailure
  | .noFileOrDirectory .. => .notFound
  | e => .other (toString e)

/-- The text of a file. -/
def readText (path : String) : IO (Except FileFailure String) := do
  try
    let octets ← IO.FS.readBinFile path
    match Text.Utf8.decode octets.data.toList with
    | .ok text => return .ok (String.ofList text)
    | .error _ => return .error .notText
  catch e => return .error (failureOf e)

/-- Looks a file up among those that have been read. -/
def lookUp (files : List (String × Except FileFailure String)) (path : String) :
    Except FileFailure String :=
  ((files.find? fun file => file.1 == path).map (·.2)).getD (.error .notFound)

/-- Reads the settings file of an invocation and the dictionary files that it and the settings
name. -/
def readFiles (i : Invocation) : IO (List (String × Except FileFailure String)) := do
  let config ← i.config.toList.mapM fun path => return (path, ← readText path)
  let named :=
    match Program.settings ⟨lookUp config, fun _ => none⟩ i with
    | .ok s => s.dictionaries
    | .error _ => []
  let dictionaries ← named.mapM fun path => return (path, ← readText path)
  return config ++ dictionaries

/-- Writes the file of an outcome, if it has one; the result is what went wrong. -/
def writeFile (outcome : Outcome) : IO (Option FileFailure) := do
  match outcome.write with
  | none => return none
  | some file =>
    try
      IO.FS.writeFile file.path file.text
      return none
    catch e => return some (failureOf e)

/-- Carries out a command line. -/
def perform (arguments : List String) : IO Outcome := do
  match CommandLine.read arguments with
  | .run i =>
    let files ← readFiles i
    let outcome := Program.run ⟨lookUp files, fun _ => none⟩ arguments
    match ← writeFile outcome with
    | none => return outcome
    | some cause => return Program.run ⟨lookUp files, fun _ => some cause⟩ arguments
  | _ => return Program.run ⟨fun _ => .error .notFound, fun _ => none⟩ arguments

end Radius.Main

/-- Runs the program on the arguments of the process. -/
def main (arguments : List String) : IO UInt32 := do
  let outcome ← Radius.Main.perform arguments
  IO.print outcome.output
  IO.eprint outcome.complaint
  return UInt32.ofNat outcome.status
