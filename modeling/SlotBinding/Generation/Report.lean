import SlotBinding.Diagnostic
import SlotBinding.Files.Path

/-!
# The report of a run
-/

namespace SlotBinding

structure ArtifactRecord where
  host : String
  binderName : String
  file : String
  deriving Repr, DecidableEq, Inhabited

/-- What came of a run. Every diagnostic stands for itself. -/
structure Report where
  artifacts : List ArtifactRecord := []
  /-- The file of the table, if it was written. -/
  table : Option String := none
  diagnostics : List Diagnostic := []
  /-- The source files that the run depended on. -/
  sources : List Files.Path := []
  deriving Repr, DecidableEq, Inhabited

namespace Report

def errors (r : Report) : List Diagnostic := r.diagnostics.filter (·.isError)

def warnings (r : Report) : List Diagnostic := r.diagnostics.filter fun d => !d.isError

def hasErrors (r : Report) : Bool := r.diagnostics.any (·.isError)

def binderNames (r : Report) : List String := r.artifacts.map (·.binderName)

end Report

end SlotBinding
