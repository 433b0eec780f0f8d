/-
# Building tables in place

A table grows by one definition after another, and whoever builds it keeps the table at hand while
definitions are offered to it.  Both indexes are asked before anything changes; then the indexes and
the definitions are changed one after the other.
-/
import Radius.Registry

namespace Radius.Table

open Text

/-- Work on a table that may hand a definition back; the table is there afterwards in either
case. -/
abbrev Building := ExceptT Definition (StateM Table)

/-- Puts a definition after the others. It is handed back if its name or its code is taken. -/
def enter (d : Definition) : Building Unit := do
  let t ← get
  if t.byName.contains (nameKey d.name) ∨ t.byCode.contains d.code then
    throw d
  let position := t.attributes.size
  modifyThe Table fun t => { t with byName := t.byName.insert (nameKey d.name) position }
  modifyThe Table fun t => { t with byCode := t.byCode.insert d.code position }
  modifyThe Table fun t => { t with attributes := t.attributes.push d }

/-- Offers definitions one after the other, whether or not those before were handed back. The
results are the answers to them. -/
def enterAll (given : List Definition) : StateM Table (List (Except Definition Unit)) :=
  given.mapM fun d => (enter d).run

end Radius.Table
