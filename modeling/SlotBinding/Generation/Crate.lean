import SlotBinding.Generation.Pass
import SlotBinding.Scan.Crate
import SlotBinding.Sink.Directory

/-!
# From a crate to its binders

The root file of a crate is scanned, and the binders are written to a directory of the same file tree.
-/

namespace SlotBinding

open Files (Path Tree)

/-- Why a build step gives no report. -/
inductive BuildStop
  | error (cause : BuildError)
  /-- A name that cannot be made an identifier. -/
  | name (fault : NameFault)
  /-- Files that lead back to each other without end. -/
  | endlessScan
  deriving Repr, DecidableEq, Inhabited

namespace BuildStop

def message : BuildStop → String
  | error cause => cause.message
  | name fault => fault.message
  | endlessScan => "modules lead back to each other without end"

end BuildStop

def crateRoots : List String := ["src/lib.rs", "src/main.rs"]

def crateRoot (t : Tree) (dir : Path) : Except BuildError Path :=
  match (crateRoots.map dir.join).find? t.isFile with
  | some root => .ok root
  | none => .error (.missingCrateRoot dir)

/-- The report of a run, with what was found before it. -/
def mergedReport (scanned : ScanOutput) (pass : Report) : Report :=
  { pass with diagnostics := scanned.diagnostics ++ pass.diagnostics, sources := scanned.files }

/-- Scans a crate and writes its binders; modules may lie in files of their own so many levels
deep. -/
def generateWithin (levels : Nat) (c : Config) (t : Tree) (manifestDir outDir : Path) :
    Except BuildStop Report × Tree :=
  match crateRoot t manifestDir with
  | .error e => (.error (.error e), t)
  | .ok root =>
    match Generator.ofConfig c with
    | .error e => (.error (.error e), t)
    | .ok g =>
      match scanCrate levels t c.crateName root with
      | none => (.error .endlessScan, t)
      | some scanned =>
        let (report, s) :=
          g.runPass scanned.sites DirectorySink.sink (DirectorySink.fresh outDir t)
        match report with
        | .error f => (.error (.name f), s.tree)
        | .ok pass => (.ok (mergedReport scanned pass), s.tree)

/-- Scans a crate and writes its binders. -/
def generate (c : Config) (t : Tree) (manifestDir outDir : Path) : Except BuildStop Report × Tree :=
  generateWithin (levelsFor t) c t manifestDir outDir

end SlotBinding
