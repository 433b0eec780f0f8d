/-
# Changing registries in place

A registry takes in dictionary text line by line, and when a line is at fault the lines before it
have already changed it.  So a text is read into a copy, which takes the place of the registry only
when all of the text has been read.
-/
import Radius.Registry.Loading

namespace Radius.Registry

/-- Work on a registry that may fail; the registry is there afterwards in either case. -/
abbrev Staging := ExceptT SourceError (StateM Registry)

/-- Reads a line into the registry; the result is the block that is open after it. -/
def readLine (block : Option Block) (line : SourceLine) : Staging (Option Block) := do
  let s ← Registrar.step ⟨← get, block⟩ line
  set s.registry
  return s.block

/-- Reads a text into the registry itself, as far as it can be read. -/
def readText (text : String) : Staging Unit := do
  match ← (SourceLine.ofText text).foldlM readLine none with
  | none => return
  | some block => throw ⟨block.line, .unclosedBlock block.name⟩

/-- Reads a text into a copy of the registry, which takes its place if there is no fault. -/
def loadText (text : String) : Staging Unit := do
  match (readText text).run.run (← get) with
  | (.ok (), staged) => set staged
  | (.error e, _) => throw e

end Radius.Registry
