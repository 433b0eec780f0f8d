/-
# Settings read back

Settings are read back from the text that they are written in, whatever characters their log level
and their file names have (`ofText?_render`): the four members are found in the document again, and
each is read as what it was written for (`ofNode?_document`).  Reading a file checks the settings in
it, so settings that cannot be followed come back as the fault that they have.
-/
import Radius.Files
import Radius.Proofs.Json.Node
import Radius.Proofs.Text.Utf8

namespace Radius

open Text

/-- A file that was written is read back. -/
lemma Files.read_write (files : Files) (file : FileWrite) :
    (files.write file).read file.path = .ok file.text := by
  have hdecode : Utf8.decode (Utf8.encode file.text.toList) = .ok file.text.toList :=
    Utf8.decode_eq_ok_iff.2 rfl
  simp only [read, write, if_true, hdecode, String.ofList_toList]

namespace Settings

lemma readPaths?_itemNodes (paths : List String) :
    readPaths? (.array (Json.itemNodes (paths.map .string))) = some paths := by
  rw [readPaths?]
  induction paths with
  | nil => rfl
  | cons path rest ih =>
      rw [List.map_cons, Json.itemNodes, List.mapM_cons, ih]
      rfl

lemma readLogLevel?_node (level : Option String) :
    readLogLevel? ((level.map Json.string).getD .null).node = some level := by
  cases level <;> rfl

/-- Settings are found in their document. -/
lemma ofNode?_document (s : Settings) : ofNode? s.document.node = some s := by
  have hlevel := readLogLevel?_node s.logLevel
  have hpaths := readPaths?_itemNodes s.dictionaries
  simp [document, Json.node, Json.memberNodes, ofNode?, Named.members?, Named.member?,
    hlevel, hpaths, readFlag?, Named.complete]

/-- Settings are read back from their text. -/
lemma ofText?_render (s : Settings) : ofText? s.document.render = some s := by
  rw [ofText?, Json.Node.parse?_render, Option.bind_some, ofNode?_document]

/-- **A settings file says what was written to it.**  Reading the file to which settings were
written gives these settings if they can be followed, and otherwise fails with the fault that they
have; this is so for every text in them.  The file has all of the settings: no other settings are
written alike. -/
theorem ofFile_write_toFile (s : Settings) (files : Files) (path : String) :
    (ofFile (files.write (s.toFile path)).read path =
      match s.fault? with
      | none => .ok s
      | some fault => .error (.invalid fault)) ∧
      ∀ t : Settings, t.toFile path = s.toFile path ↔ t = s := by
  constructor
  · have hread : (files.write (s.toFile path)).read path = .ok s.document.render :=
      files.read_write (s.toFile path)
    simp only [ofFile, hread, ofText?_render]
    rfl
  · intro t
    constructor
    · intro h
      have htext : t.document.render = s.document.render := congrArg FileWrite.text h
      have hread := ofText?_render t
      rw [htext, ofText?_render] at hread
      exact (Option.some.inj hread).symm
    · rintro rfl
      rfl

end Settings

end Radius
