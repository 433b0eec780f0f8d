/-
# Settings

What an operator sets for every command: how much is logged, which dictionary files are loaded after
the built-in dictionary or instead of it, and how strictly attributes are checked. Settings are kept
in a file as a JSON object; `Settings.document` writes it and `Settings.ofText?` reads it. Whatever
is missing from the file has its default, and members that are not settings are ignored.
-/
import Radius.Dictionary.Builtin
import Radius.Json
import Radius.Json.Node
import Radius.Validation

namespace Radius

open Text

/-- What an operator sets for every command. -/
structure Settings where
  /-- The least severe messages that are logged, if this is set. -/
  logLevel : Option String := none
  /-- Dictionary files, in the order in which they are loaded. -/
  dictionaries : List String := []
  /-- Whether the built-in dictionary is loaded before the files. -/
  includeBuiltin : Bool := true
  strict : Bool := true
deriving DecidableEq

/-- What settings may not say. -/
inductive SettingsFault where
  /-- The log level is none that there is. -/
  | logLevel (level : String)
  /-- A dictionary file has a blank name. -/
  | emptyPath
  /-- There is neither the built-in dictionary nor a file. -/
  | noDictionaries
deriving DecidableEq

/-- The fault in words. -/
def SettingsFault.message : SettingsFault → String
  | logLevel level => "Invalid log level: " ++ level
  | emptyPath => "Dictionary path cannot be empty"
  | noDictionaries => "No dictionaries: include_builtin is false and no files are listed"

/-- Why settings cannot be read, written or followed. -/
inductive SettingsError where
  /-- The file cannot be read or written. -/
  | file (failure : FileFailure)
  /-- The file does not spell settings. -/
  | notSettings
  | invalid (fault : SettingsFault)
  /-- A dictionary file cannot be loaded. -/
  | dictionary (error : FileError)
deriving DecidableEq

/-- The cause in words. -/
def SettingsError.message : SettingsError → String
  | file failure => "IO error: " ++ failure.message
  | notSettings => "Parse error: no JSON object with the settings of this tool"
  | invalid fault => "Invalid configuration: " ++ fault.message
  | dictionary error => "Dictionary error: " ++ error.message

namespace Settings

/-- Settings to start from. -/
def sample : Settings where
  logLevel := some "info"
  dictionaries := ["/etc/raddb/dictionary.local"]

/-- The log levels there are. -/
def logLevels : List String :=
  ["trace", "debug", "info", "warn", "error", "off"]

/-- The log level that is in force. -/
def effectiveLogLevel (s : Settings) : String :=
  s.logLevel.getD "warn"

/-- How much the dictionary has to know of the attributes it checks. -/
def mode (s : Settings) : Mode :=
  if s.strict then .strict else .lenient

/-- The first fault of the settings; none if they can be followed. -/
def fault? (s : Settings) : Option SettingsFault :=
  match s.logLevel.filter fun level => !logLevels.contains (String.ofList (fold level)) with
  | some level => some (.logLevel level)
  | none =>
    if s.dictionaries.any fun path => (trim path.toList).isEmpty then some .emptyPath
    else if !s.includeBuiltin ∧ s.dictionaries = [] then some .noDictionaries
    else none

/-- The settings themselves, if they can be followed. -/
def checked (s : Settings) : Except SettingsError Settings :=
  match s.fault? with
  | none => .ok s
  | some fault => .error (.invalid fault)

/-- The settings with more dictionary files after the others, and without strictness if this is
asked for. -/
def amended (s : Settings) (files : List String) (lenient : Bool) : Settings :=
  { s with dictionaries := s.dictionaries ++ files, strict := s.strict && !lenient }

/-! ### Dictionaries -/

/-- The dictionary that the files extend. -/
def base (s : Settings) : Dictionary :=
  if s.includeBuiltin then .builtin else .empty

/-- Loads the dictionary that the files extend. -/
def loadBase (s : Settings) : Except FileError Dictionary :=
  if s.includeBuiltin then Dictionary.loadBuiltin else .ok .empty

/-- The dictionary that the settings describe, where `read` gives the text of files. -/
def loadDictionary (s : Settings) (read : String → Except FileFailure String) :
    Except SettingsError Dictionary :=
  (do s.dictionaries.foldlM (Dictionary.loadFile · read ·) (← s.loadBase)).mapError .dictionary

/-- The directives skipped in the files, up to the first that cannot be loaded. -/
def skippedIn (read : String → Except FileFailure String) (d : Dictionary) :
    List String → List Skipped
  | [] => []
  | path :: rest =>
    let here :=
      match read path with
      | .ok text => d.skipped text
      | .error _ => []
    match d.loadFile read path with
    | .ok d => here ++ skippedIn read d rest
    | .error _ => here

/-- The directives that are skipped while the dictionary is loaded. -/
def skipped (s : Settings) (read : String → Except FileFailure String) : List Skipped :=
  skippedIn read s.base s.dictionaries

/-! ### Files -/

/-- The settings as JSON. -/
def document (s : Settings) : Json :=
  .object [
    ("log_level", (s.logLevel.map .string).getD .null),
    ("dictionaries", .array (s.dictionaries.map .string)),
    ("include_builtin", .bool s.includeBuiltin),
    ("strict", .bool s.strict)]

/-- The settings that a file has named so far. -/
structure Named where
  logLevel : Option (Option String) := none
  dictionaries : Option (List String) := none
  includeBuiltin : Option Bool := none
  strict : Option Bool := none

/-- The settings named, with defaults for the others. -/
def Named.complete (n : Named) : Settings where
  logLevel := n.logLevel.getD none
  dictionaries := n.dictionaries.getD []
  includeBuiltin := n.includeBuiltin.getD true
  strict := n.strict.getD true

/-- The text of a string. -/
def text? : Json.Node → Option String
  | .string content => content
  | _ => none

/-- A log level: a text, or null for none. -/
def readLogLevel? : Json.Node → Option (Option String)
  | .null => some none
  | node => (text? node).map some

/-- The names of files. -/
def readPaths? : Json.Node → Option (List String)
  | .array items => items.mapM text?
  | _ => none

/-- Whether something is set. -/
def readFlag? : Json.Node → Option Bool
  | .bool value => some value
  | _ => none

/-- Reads a member. A setting may be named once; other keys do not count. -/
def Named.member? (n : Named) (key : String) (node : Json.Node) : Option Named :=
  if key = "log_level" then
    if n.logLevel.isSome then none
    else (readLogLevel? node).map fun value => { n with logLevel := some value }
  else if key = "dictionaries" then
    if n.dictionaries.isSome then none
    else (readPaths? node).map fun value => { n with dictionaries := some value }
  else if key = "include_builtin" then
    if n.includeBuiltin.isSome then none
    else (readFlag? node).map fun value => { n with includeBuiltin := some value }
  else if key = "strict" then
    if n.strict.isSome then none
    else (readFlag? node).map fun value => { n with strict := some value }
  else some n

/-- Reads members one after the other. Every key must be text. -/
def Named.members? (n : Named) : List (Option String × Json.Node) → Option Named
  | [] => some n
  | (key, node) :: rest => do
    let key ← key
    (← n.member? key node).members? rest

/-- The settings that a JSON value spells: an object with the settings as members, or an array with
the values of the settings in order, the last of which may be missing. -/
def ofNode? : Json.Node → Option Settings
  | .object members => (Named.members? {} members).map Named.complete
  | .array items =>
    -- without keys, the place of a value says which setting it is
    let keys := ["log_level", "dictionaries", "include_builtin", "strict"]
    if items.length ≤ keys.length then
      (Named.members? {} ((keys.map some).zip items)).map Named.complete
    else none
  | _ => none

/-- The settings that a text spells. -/
def ofText? (text : String) : Option Settings :=
  (Json.Node.parse? text).bind ofNode?

/-- Reads settings that can be followed from a file, where `read` gives the text of files. -/
def ofFile (read : String → Except FileFailure String) (path : String) :
    Except SettingsError Settings :=
  match read path with
  | .error failure => .error (.file failure)
  | .ok text =>
    match ofText? text with
    | none => .error .notSettings
    | some s => s.checked

end Settings

end Radius
