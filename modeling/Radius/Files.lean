/-
# Files

Files around the program, by their paths: their octets, or why these cannot be had.  The text of a
file is UTF-8; a file that is written has its octets under its path from then on, and other files are
as they were.
-/
import Radius.Program

namespace Radius

/-- The octets of files. -/
abbrev Files := String → Except FileFailure Octets

namespace Files

/-- The text of a file. -/
def read (files : Files) (path : String) : Except FileFailure String :=
  match files path with
  | .error failure => .error failure
  | .ok octets =>
    match Text.Utf8.decode octets with
    | .ok text => .ok (String.ofList text)
    | .error _ => .error .notText

/-- The files after one has been written. -/
def write (files : Files) (file : FileWrite) : Files := fun path =>
  if path = file.path then .ok (Text.Utf8.encode file.text.toList) else files path

end Files

/-- The file in which settings are kept at a path. -/
def Settings.toFile (s : Settings) (path : String) : FileWrite :=
  ⟨path, s.document.render⟩

end Radius
