/-
# The built-in dictionary

The vendors that every dictionary starts from unless the operator asks for none. Their texts are
loaded one after the other like any other dictionary text.
-/
import Radius.Dictionary.Builtin.Acc
import Radius.Dictionary.Builtin.AlcatelSr
import Radius.Dictionary.Builtin.Ascend
import Radius.Dictionary.Builtin.CiscoAsa
import Radius.Dictionary.Builtin.Erx
import Radius.Dictionary.Builtin.Extreme
import Radius.Dictionary.Builtin.Gandalf
import Radius.Dictionary.Builtin.Huawei
import Radius.Dictionary.Builtin.Juniper
import Radius.Dictionary.Builtin.Wispr
import Radius.Dictionary.Loading

namespace Radius

/-- The files of the built-in dictionary with their texts, in the order in which they are loaded. -/
def Builtin.files : List (String × String) :=
  [("dictionary.acc", Builtin.acc), ("dictionary.gandalf", Builtin.gandalf),
   ("dictionary.ascend", Builtin.ascend), ("dictionary.extreme", Builtin.extreme),
   ("dictionary.huawei", Builtin.huawei), ("dictionary.juniper", Builtin.juniper),
   ("dictionary.cisco.asa", Builtin.ciscoAsa), ("dictionary.erx", Builtin.erx),
   ("dictionary.alcatel.sr", Builtin.alcatelSr), ("dictionary.wispr", Builtin.wispr)]

namespace Dictionary

/-- The dictionary with the definitions of files added, one file after the other, where each file
stands with its text. The first that has a fault is reported. -/
def loadAll (d : Dictionary) (files : List (String × String)) : Except FileError Dictionary :=
  files.foldlM (fun d (path, text) => (d.load text).mapError (.refused path)) d

/-- Loads the built-in dictionary. -/
def loadBuiltin : Except FileError Dictionary :=
  empty.loadAll Builtin.files

/-- The built-in dictionary; none of its files has a fault. -/
def builtin : Dictionary :=
  loadBuiltin.toOption.getD empty

end Dictionary

end Radius
