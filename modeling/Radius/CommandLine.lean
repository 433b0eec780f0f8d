/-
# Command lines

How the arguments of the tool are read. Options that name files stand before the command, the two
switches stand anywhere, and after `--` every argument is a value. Arguments are read from left to
right; the first one that makes no sense, or that asks for help or the version, decides.
-/

namespace Radius

/-- What the tool is to do. -/
inductive Command where
  | vendors
  | attributes (vendor : String)
  | encode (vendor spec text : String)
  | decode (input : String)
  | inspect (input : String)
  | initConfig (path : String)
deriving DecidableEq

/-- A command with the options around it. -/
structure Invocation where
  /-- The settings file. -/
  config : Option String := none
  /-- Dictionary files to be loaded after those of the settings. -/
  dictionaries : List String := []
  /-- Whether the answer is JSON. -/
  json : Bool := false
  lenient : Bool := false
  command : Command
deriving DecidableEq

/-- What a command line asks for. -/
inductive Request where
  | run (invocation : Invocation)
  | version
  | help
  /-- The arguments make no sense. -/
  | misuse
deriving DecidableEq

namespace CommandLine

/-- Whether an argument is an option and not a value. A single dash is a value. -/
def isOption (argument : String) : Bool :=
  match argument.toList with
  | '-' :: _ :: _ => true
  | _ => false

/-- Splits a long option, without its dashes, at the first `=`. -/
def splitLong (option : List Char) : String × Option String :=
  let name := String.ofList (option.takeWhile (· != '='))
  match option.dropWhile (· != '=') with
  | _ :: value => (name, some (String.ofList value))
  | [] => (name, none)

/-- The value that follows a short option in the same argument, after an optional `=`. -/
def attachedValue : List Char → Option String
  | [] => none
  | '=' :: value => some (String.ofList value)
  | value => some (String.ofList value)

/-! ### The switches -/

/-- The switches set so far in one part of the command line. -/
structure Switches where
  json : Bool := false
  lenient : Bool := false
deriving DecidableEq

/-- Sets a switch, which may be set once in each part. -/
def Switches.set? (s : Switches) (name : String) : Option Switches :=
  if name = "json" then if s.json then none else some { s with json := true }
  else if name = "lenient" then if s.lenient then none else some { s with lenient := true }
  else none

/-! ### The command -/

/-- The names of the commands. -/
def commandNames : List String :=
  ["vendors", "attributes", "encode", "decode", "inspect", "init-config"]

/-- How many values a command can take. -/
def maxValues (name : String) : Nat :=
  if name = "encode" then 3
  else if name = "vendors" then 0
  else 1

/-- Whether a value is acceptable: a file to be written needs a name. -/
def acceptsValue (name value : String) : Bool :=
  name ≠ "init-config" || value ≠ ""

/-- The command with the given values; none if values are missing. -/
def command? (name : String) (values : List String) : Option Command :=
  match name, values with
  | "vendors", [] => some .vendors
  | "attributes", [vendor] => some (.attributes vendor)
  | "encode", [vendor, spec, text] => some (.encode vendor spec text)
  | "decode", [input] => some (.decode input)
  | "inspect", [input] => some (.inspect input)
  | "init-config", [] => some (.initConfig "radius-vsa.json")
  | "init-config", [path] => some (.initConfig path)
  | _, _ => none

/-- The arguments after a command's name: its values, in order, and the switches among them. `plain`
says that `--` has been passed. -/
def readCommand (name : String) (plain : Bool) (values : List String) (switches : Switches)
    (finish : Command → Switches → Request) : List String → Request
  | [] =>
    match command? name values with
    | some command => finish command switches
    | none => .misuse
  | argument :: rest =>
    -- only the first `--` is no value
    if !plain && argument = "--" then readCommand name true values switches finish rest
    else if !plain && isOption argument then
      if argument = "--help" then .help
      else
        match argument.toList with
        | '-' :: '-' :: option =>
          match switches.set? (String.ofList option) with
          | some switches => readCommand name plain values switches finish rest
          | none => .misuse
        | '-' :: 'h' :: _ => .help
        | _ => .misuse
    else if values.length < maxValues name ∧ acceptsValue name argument then
      readCommand name plain (values ++ [argument]) switches finish rest
    else .misuse

/-! ### The options before the command -/

/-- The options read so far. -/
structure Options where
  config : Option String := none
  dictionaries : List String := []
  switches : Switches := {}
deriving DecidableEq

/-- An option that takes a value. -/
inductive ValueOption where
  | config
  | dictionary
deriving DecidableEq

/-- Gives an option its value. The settings file is named once, and by a name that is not empty. -/
def Options.set? (o : Options) (option : ValueOption) (value : String) : Option Options :=
  match option with
  | .config => if o.config.isSome ∨ value = "" then none else some { o with config := some value }
  | .dictionary => some { o with dictionaries := o.dictionaries ++ [value] }

/-- The invocation of a command after these options. -/
def Options.invoke (o : Options) (command : Command) (switches : Switches) : Request :=
  .run {
    config := o.config
    dictionaries := o.dictionaries
    json := o.switches.json || switches.json
    lenient := o.switches.lenient || switches.lenient
    command := command }

/-- What an argument before the command does. -/
inductive Effect where
  | options (o : Options)
  /-- The option takes the next argument as its value. -/
  | awaits (option : ValueOption)
  | request (r : Request)

/-- The effect of an option with its value, if the value is in the same argument. -/
def Options.give (o : Options) (option : ValueOption) : Option String → Effect
  | none => .awaits option
  | some value =>
    match o.set? option value with
    | some o => .options o
    | none => .request .misuse

/-- The effect of a long option. -/
def Options.long (o : Options) (option : List Char) : Effect :=
  match splitLong option with
  | ("config", value) => o.give .config value
  | ("dictionary", value) => o.give .dictionary value
  | ("help", none) => .request .help
  | ("version", none) => .request .version
  | (name, none) =>
    match o.switches.set? name with
    | some switches => .options { o with switches }
    | none => .request .misuse
  | _ => .request .misuse

/-- The effect of a short option and what follows it in the same argument. -/
def Options.short (o : Options) (letter : Char) (rest : List Char) : Effect :=
  match letter with
  | 'c' => o.give .config (attachedValue rest)
  | 'd' => o.give .dictionary (attachedValue rest)
  | 'h' => .request .help
  | 'V' => .request .version
  | _ => .request .misuse

/-- The effect of an option before the command. -/
def Options.option (o : Options) (argument : String) : Effect :=
  match argument.toList with
  | '-' :: '-' :: option => o.long option
  | '-' :: letter :: rest => o.short letter rest
  | _ => .request .misuse

/-- What is asked for by `help` and the arguments after it. -/
def readHelp : List String → Request
  | [] => .help
  | [name] => if name ∈ "help" :: commandNames then .help else .misuse
  | _ => .misuse

/-- The arguments from the first on. `awaiting` is an option whose value comes next. -/
def readOptions (o : Options) (awaiting : Option ValueOption) : List String → Request
  | [] => .misuse
  | argument :: rest =>
    match awaiting with
    | some option =>
      if isOption argument then .misuse
      else
        match o.set? option argument with
        | some o => readOptions o none rest
        | none => .misuse
    | none =>
      if argument = "help" then readHelp rest
      else if argument ∈ commandNames then readCommand argument false [] {} o.invoke rest
      else if argument = "--" ∨ !isOption argument then .misuse
      else
        match o.option argument with
        | .options o => readOptions o none rest
        | .awaits option => readOptions o (some option) rest
        | .request r => r

/-- What a command line asks for. -/
def read (arguments : List String) : Request :=
  readOptions {} none arguments

end CommandLine

end Radius
