/-
# Options and settings

An option before the command amends the settings of the file: `-d` adds a dictionary file after the
others, `--lenient` takes strictness away.  A run with options is a run without them whose settings
file has been amended in the same way (`Program.run_amending`).  The settings of the file must be
sound on their own, though: they are checked before the options come into play, and settings without
any dictionary are refused even where an option adds one (`Program.invoke_of_fault`).
-/
import Mathlib.Tactic.SplitIfs
import Radius.Program
import Radius.Proofs.Outcome

namespace Radius

/-! ### Reading the arguments -/

namespace CommandLine

variable {name path file : String} {o : Options} {files rest : List String} {lenient : Bool}

/-- What is made of the command and its switches does not change how they are read. -/
lemma readCommand_congr {α : Type} {respond : Request → α}
    {finish finish' : Command → Switches → Request}
    (hfinish : ∀ command switches, respond (finish command switches) =
      respond (finish' command switches))
    (plain : Bool) (values : List String) (switches : Switches) (rest : List String) :
    respond (readCommand name plain values switches finish rest) =
      respond (readCommand name plain values switches finish' rest) := by
  induction rest generalizing plain values switches with
  | nil =>
      rw [readCommand, readCommand]
      cases command? name values with
      | none => rfl
      | some command => exact hfinish command switches
  | cons argument rest ih =>
      rw [readCommand, readCommand]
      split_ifs with hdashes hoption hhelp hvalue
      · exact ih true values switches
      · rfl
      · split
        · split
          · exact ih plain values _
          · rfl
        · rfl
        · rfl
      · exact ih plain (values ++ [argument]) switches
      · rfl

/-- The settings file, named by an option of its own. -/
lemma readOptions_config (hpath : isOption path = false) (hne : path ≠ "")
    (hfirst : o.config = none) :
    readOptions o none ("-c" :: path :: rest) =
      readOptions { o with config := some path } none rest := by
  have hoption : o.option "-c" = .awaits .config := rfl
  rw [readOptions, if_neg (by decide), if_neg (by decide), if_neg (by decide), hoption]
  have hset : o.set? .config path = some { o with config := some path } := by
    simp [Options.set?, hfirst, hne]
  simp only [readOptions, hpath, hset, Bool.false_eq_true, if_false]

/-- A dictionary file, named by an option of its own. -/
lemma readOptions_dictionary (hfile : isOption file = false) :
    readOptions o none ("-d" :: file :: rest) =
      readOptions { o with dictionaries := o.dictionaries ++ [file] } none rest := by
  have hoption : o.option "-d" = .awaits .dictionary := rfl
  rw [readOptions, if_neg (by decide), if_neg (by decide), if_neg (by decide), hoption]
  simp only [readOptions, hfile, Options.set?, Bool.false_eq_true, if_false]

lemma readOptions_dictionaries (hfiles : ∀ file ∈ files, isOption file = false) :
    readOptions o none (files.flatMap (fun file => ["-d", file]) ++ rest) =
      readOptions { o with dictionaries := o.dictionaries ++ files } none rest := by
  induction files generalizing o with
  | nil => simp
  | cons file files ih =>
      obtain ⟨hfile, hfiles⟩ := List.forall_mem_cons.1 hfiles
      rw [List.flatMap_cons, List.append_assoc, List.cons_append, List.cons_append,
        List.nil_append, readOptions_dictionary hfile, ih hfiles, List.append_assoc]
      rfl

lemma readOptions_lenient (hfirst : o.switches.lenient = false) :
    readOptions o none ((if lenient then ["--lenient"] else []) ++ rest) =
      readOptions { o with switches := { o.switches with lenient } } none rest := by
  obtain ⟨config, dictionaries, json, lenient'⟩ := o
  obtain rfl : lenient' = false := hfirst
  cases lenient with
  | false => rfl
  | true =>
      have hoption : ({ config, dictionaries, switches := { json } } : Options).option "--lenient" =
          .options { config, dictionaries, switches := { json, lenient := true } } := rfl
      show readOptions _ none ("--lenient" :: rest) = _
      rw [readOptions, if_neg (by decide), if_neg (by decide), if_neg (by decide), hoption]

/-- The name of a command ends the options. -/
lemma readOptions_command (hname : name ∈ commandNames) :
    readOptions o none (name :: rest) = readCommand name false [] {} o.invoke rest := by
  have hhelp : name ≠ "help" := ne_of_mem_of_not_mem hname (by decide)
  rw [readOptions, if_neg hhelp, if_pos hname]

/-- The options that name a settings file and amend what it says. -/
def amending (path : String) (files : List String) (lenient : Bool) : List String :=
  "-c" :: path ::
    (files.flatMap (fun file => ["-d", file]) ++ if lenient then ["--lenient"] else [])

/-- The amending options are all known when the command is read. -/
lemma read_amending (hpath : isOption path = false) (hne : path ≠ "")
    (hfiles : ∀ file ∈ files, isOption file = false) (hname : name ∈ commandNames) :
    read (amending path files lenient ++ name :: rest) =
      readCommand name false [] {}
        (Options.invoke { config := some path, dictionaries := files, switches := { lenient } })
        rest := by
  rw [read, amending, List.cons_append, List.cons_append, List.append_assoc,
    readOptions_config hpath hne rfl, readOptions_dictionaries hfiles, readOptions_lenient rfl,
    readOptions_command hname]
  rfl

end CommandLine

/-! ### Settings and their faults -/

namespace Settings

variable {s : Settings} {files : List String} {fault : SettingsFault} {lenient : Bool}

lemma checked_eq_ok (hfault : s.fault? = none) : s.checked = .ok s := by
  rw [checked, hfault]

lemma checked_eq_error (hfault : s.fault? = some fault) : s.checked = .error (.invalid fault) := by
  rw [checked, hfault]

lemma amended_amended (s : Settings) (files files' : List String) (lenient lenient' : Bool) :
    (s.amended files lenient).amended files' lenient' =
      s.amended (files ++ files') (lenient || lenient') := by
  simp only [amended, List.append_assoc, Bool.not_or, Bool.and_assoc]

/-- Strictness is no matter of faults. -/
lemma fault?_amended_nil (s : Settings) (lenient : Bool) :
    (s.amended [] lenient).fault? = s.fault? := by
  simp only [fault?, amended, List.append_nil]

/-- The only fault that a dictionary file mends is the lack of one. -/
lemma fault?_amended (hfault : s.fault? = some fault)
    (hlack : fault = .noDictionaries → files = []) :
    (s.amended files lenient).fault? = some fault := by
  by_cases hnone : fault = .noDictionaries
  · rw [hlack hnone, fault?_amended_nil, hfault]
  unfold fault? at hfault ⊢
  dsimp only [amended]
  split at hfault
  · exact hfault
  · split_ifs at hfault with hblank
    · have hblank' : (s.dictionaries ++ files).any
          fun path => (Text.trim path.toList).isEmpty := by
        rw [List.any_append, hblank, Bool.true_or]
      exact (if_pos hblank').trans hfault
    · exact absurd (Option.some.inj hfault).symm hnone

/-- Settings that lack any dictionary aside, it does not matter whether they are amended after the
first check or before it. -/
lemma checked_bind_amended (hlack : s.fault? = some .noDictionaries → files = [])
    (lenient lenient' : Bool) :
    (s.checked >>= fun checked => (checked.amended files (lenient || lenient')).checked) =
      (s.amended files lenient).checked >>= fun checked =>
        (checked.amended [] lenient').checked := by
  cases hfault : s.fault? with
  | some fault =>
      have hamended : (s.amended files lenient).fault? = some fault := by
        refine fault?_amended hfault fun hnone => hlack ?_
        rw [hfault, hnone]
      rw [checked_eq_error hfault, checked_eq_error hamended]
      rfl
  | none =>
      have honce : s.amended files (lenient || lenient') =
          (s.amended files lenient).amended [] lenient' := by
        rw [amended_amended, List.append_nil]
      rw [checked_eq_ok hfault]
      show (s.amended files (lenient || lenient')).checked = _
      rw [honce]
      cases hamended : (s.amended files lenient).fault? with
      | none =>
          rw [checked_eq_ok hamended]
          rfl
      | some fault =>
          rw [checked_eq_error hamended, checked_eq_error ((fault?_amended_nil _ _).trans hamended)]
          rfl

end Settings

/-! ### Runs -/

/-- A host with these files and no others. -/
def Host.ofFiles (files : List (String × String)) : Host where
  read path :=
    match files.find? fun file => file.1 == path with
    | some file => .ok file.2
    | none => .error .notFound
  writeFailure _ := none

namespace Program

open CommandLine Settings

variable {host : Host} {i i' : Invocation} {path path' text text' name : String} {s : Settings}
  {files : List String} {lenient : Bool} {fault : SettingsFault}

/-- Beside the command and the form of its answer an invocation counts for its settings. -/
lemma invoke_congr (hcommand : i.command = i'.command) (hjson : i.json = i'.json)
    (hsettings : settings host i = settings host i') : invoke host i = invoke host i' := by
  rw [invoke, invoke, query, query, hcommand, hjson, hsettings]

/-- The settings of an invocation that names a file of settings. -/
lemma settings_eq (hread : host.read path = .ok text) (hsettings : Settings.ofText? text = some s)
    (hconfig : i.config = some path) :
    settings host i = s.checked >>= fun s => (s.amended i.dictionaries i.lenient).checked := by
  have hfile : Settings.ofFile host.read path = s.checked := by
    simp only [Settings.ofFile, hread, hsettings]
  rw [settings, hconfig]
  show (Settings.ofFile host.read path >>= _) = _
  rw [hfile]

/-- Settings that cannot be followed on their own are refused, whatever the options add to them. -/
lemma invoke_of_fault (hread : host.read path = .ok text)
    (hsettings : Settings.ofText? text = some s) (hfault : s.fault? = some fault)
    (hconfig : i.config = some path) (hcommand : ∀ path, i.command ≠ .initConfig path) :
    invoke host i = failure (.settings (.invalid fault)) := by
  have hquery : query host i = .error (.settings (.invalid fault)) := by
    rw [query, settings_eq hread hsettings hconfig, checked_eq_error hfault]
    rfl
  rw [invoke, hquery]
  split
  · exact absurd ‹_› (hcommand _)
  · rfl

/-- **Options amend the settings.**  Let the settings of one file be those of another one with more
dictionary files after the others, and without strictness if this is asked for.  A command that
names the other file and has an option for every difference comes to what the command comes to that
names the amended file: the same status, the same output, the same complaint.  Only if the settings
of the other file lack any dictionary, no option may add one. -/
theorem run_amending (host : Host) (hread : host.read path = .ok text)
    (hsettings : Settings.ofText? text = some s) (hread' : host.read path' = .ok text')
    (hsettings' : Settings.ofText? text' = some (s.amended files lenient))
    (hpath : isOption path = false ∧ path ≠ "") (hpath' : isOption path' = false ∧ path' ≠ "")
    (hfiles : ∀ file ∈ files, isOption file = false) (hname : name ∈ commandNames)
    (hlack : s.fault? = some .noDictionaries → files = []) (rest : List String) :
    run host (amending path files lenient ++ name :: rest) =
      run host ("-c" :: path' :: name :: rest) := by
  show run host _ = run host (amending path' [] false ++ name :: rest)
  rw [run, run, read_amending hpath.1 hpath.2 hfiles hname,
    read_amending hpath'.1 hpath'.2 (List.forall_mem_nil _) hname]
  refine readCommand_congr (fun command switches => ?_) false [] {} rest
  refine invoke_congr rfl rfl ?_
  rw [settings_eq hread hsettings rfl, settings_eq hread' hsettings' rfl]
  exact checked_bind_amended hlack lenient switches.lenient

/-- The options `-d` and `--lenient`, and a settings file that says the same. -/
theorem run_amending_local_dictionary :
    ∃ host : Host,
      host.read "tool.json" = .ok "\x7b\x7d" ∧
      host.read "local.json" =
        .ok "\x7b\"dictionaries\": [\"dictionary.local\"], \"strict\": false\x7d" ∧
      run host ["-c", "tool.json", "-d", "dictionary.local", "--lenient", "vendors", "--json"] =
        run host ["-c", "local.json", "vendors", "--json"] := by
  have hsettings : Settings.ofText? "\x7b\x7d" = some {} := by decide +kernel
  have hsettings' : Settings.ofText?
      "\x7b\"dictionaries\": [\"dictionary.local\"], \"strict\": false\x7d" =
        some (amended {} ["dictionary.local"] true) := by decide +kernel
  refine ⟨.ofFiles [("tool.json", "\x7b\x7d"), ("local.json",
    "\x7b\"dictionaries\": [\"dictionary.local\"], \"strict\": false\x7d"),
    ("dictionary.local", "VENDOR Example 32473")], rfl, rfl, ?_⟩
  have hlack : ({} : Settings).fault? = some .noDictionaries → ["dictionary.local"] = [] := by
    decide
  exact run_amending _ rfl hsettings rfl hsettings' ⟨rfl, by decide⟩ ⟨rfl, by decide⟩ (by decide)
    (by decide) hlack ["--json"]

/-- Settings without the built-in dictionary and without files. -/
lemma ofText?_without_dictionaries :
    Settings.ofText? "\x7b\"include_builtin\":false\x7d" = some { includeBuiltin := false } := by
  decide +kernel

/-- Settings with a file in the place of the built-in dictionary. -/
lemma ofText?_local_dictionary :
    Settings.ofText? "\x7b\"dictionaries\":[\"dictionary.local\"],\"include_builtin\":false\x7d" =
      some { dictionaries := ["dictionary.local"], includeBuiltin := false } := by
  decide +kernel

/-- Where the settings of the file lack any dictionary, naming one by an option is not enough: the
settings are refused that would be followed if the file named it. -/
theorem not_run_amending_without_dictionaries :
    ¬ ∀ (host : Host) (path path' text text' name : String) (s : Settings) (files : List String)
      (lenient : Bool) (rest : List String),
      host.read path = .ok text → Settings.ofText? text = some s →
      host.read path' = .ok text' → Settings.ofText? text' = some (s.amended files lenient) →
      isOption path = false ∧ path ≠ "" → isOption path' = false ∧ path' ≠ "" →
      (∀ file ∈ files, isOption file = false) → name ∈ commandNames → name ≠ "init-config" →
      run host (amending path files lenient ++ name :: rest) =
        run host ("-c" :: path' :: name :: rest) := by
  intro h
  obtain ⟨host, hread, hread', hloaded⟩ : ∃ host : Host,
      host.read "tool.json" = .ok "\x7b\"include_builtin\":false\x7d" ∧
      host.read "local.json" =
        .ok "\x7b\"dictionaries\":[\"dictionary.local\"],\"include_builtin\":false\x7d" ∧
      Settings.loadDictionary { dictionaries := ["dictionary.local"], includeBuiltin := false }
        host.read = .ok ⟨[⟨"Example", 32473, []⟩]⟩ :=
    ⟨.ofFiles [("tool.json", "\x7b\"include_builtin\":false\x7d"),
      ("local.json",
        "\x7b\"dictionaries\":[\"dictionary.local\"],\"include_builtin\":false\x7d"),
      ("dictionary.local", "VENDOR Example 32473")], rfl, rfl, rfl⟩
  have hoption : run host (amending "tool.json" ["dictionary.local"] false ++ ["vendors"]) =
      failure (.settings (.invalid .noDictionaries)) := by
    rw [run, read_amending rfl (by decide) (by decide) (by decide)]
    show invoke host {
      config := some "tool.json"
      dictionaries := ["dictionary.local"]
      command := .vendors } = _
    exact invoke_of_fault hread ofText?_without_dictionaries rfl rfl nofun
  have hfile : run host (amending "local.json" [] false ++ ["vendors"]) = {
      status := 0
      output := printAll false Vendor.document Vendor.summary [⟨"Example", 32473, []⟩] } := by
    have hquery : query host { config := some "local.json", command := .vendors } =
        .ok (printAll false Vendor.document Vendor.summary [⟨"Example", 32473, []⟩]) := by
      rw [query, settings_eq hread' ofText?_local_dictionary rfl, checked_eq_ok rfl]
      show ((Settings.loadDictionary
        { dictionaries := ["dictionary.local"], includeBuiltin := false } host.read).mapError
          CommandError.settings >>= _) = _
      rw [hloaded]
      rfl
    rw [run, read_amending rfl (by decide) (by decide) (by decide)]
    show invoke host { config := some "local.json", command := .vendors } = _
    rw [invoke, hquery]
  have hsame := h host "tool.json" "local.json" _ _ "vendors" _ ["dictionary.local"] false [] hread
    ofText?_without_dictionaries hread' ofText?_local_dictionary ⟨rfl, by decide⟩ ⟨rfl, by decide⟩
    (by decide) (by decide) (by decide)
  exact absurd (congrArg Outcome.status (hoption.symm.trans (hsame.trans hfile))) (by decide)

end Program

end Radius
