import SlotBinding.Generation.Crate

/-!
# The build script

A build script reads its configuration from the environment, generates the binders and prints
directives for the build tool.
-/

namespace SlotBinding

open Files (Path Tree)

namespace Directive

def rerunIfVariableChanged (name : String) : String := "cargo::rerun-if-env-changed=" ++ name

def rerunIfFileChanged (p : Path) : String := "cargo::rerun-if-changed=" ++ p

/-- Shows a diagnostic in one line; errors are shown as warnings where they do not fail the build. -/
def display (failOnError : Bool) (d : Diagnostic) : String :=
  "cargo::" ++ (if d.isError && failOnError then "error" else "warning") ++ "="
    ++ Text.replaceChar '\n' ' ' d.text

end Directive

/-- What a build script did: what it printed, what came of it, and the files behind it. -/
structure ScriptRun where
  /-- The texts that were printed, each followed by the end of a line. -/
  printed : List String
  result : Except BuildStop Report
  tree : Tree

namespace ScriptRun

def stopped (cause : BuildError) (t : Tree) : ScriptRun :=
  { printed := [], result := .error (.error cause), tree := t }

def directives (failOnError : Bool) (r : Report) : List String :=
  r.sources.map Directive.rerunIfFileChanged ++ r.diagnostics.map (Directive.display failOnError)

/-- The result of a build that ended with a report. -/
def verdict (failOnError : Bool) (r : Report) : Except BuildStop Report :=
  if failOnError && 0 < r.errors.length then .error (.error (.failed r.errors.length)) else .ok r

def opening : List String := Variable.configuration.map Directive.rerunIfVariableChanged

end ScriptRun

def runBuildScriptIn (e : Environment) (t : Tree) (manifestDir outDir : Path) : ScriptRun :=
  match Config.ofEnvironment e with
  | .error cause =>
    { printed := ScriptRun.opening, result := .error (.error cause), tree := t }
  | .ok c =>
    match generate c t manifestDir outDir with
    | (.error stop, t) => { printed := ScriptRun.opening, result := .error stop, tree := t }
    | (.ok r, t) =>
      { printed := ScriptRun.opening ++ ScriptRun.directives c.failOnError r
        result := ScriptRun.verdict c.failOnError r
        tree := t }

def runBuildScript (e : Environment) (t : Tree) : ScriptRun :=
  match e.get? Variable.manifestDir, e.get? Variable.outDir with
  | none, _ => .stopped (.missingVariable Variable.manifestDir) t
  | some _, none => .stopped (.missingVariable Variable.outDir) t
  | some manifestDir, some outDir => runBuildScriptIn e t manifestDir outDir

end SlotBinding
