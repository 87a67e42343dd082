import SlotBinding.Generation.Grouping
import SlotBinding.Generation.Report
import SlotBinding.Render.Table
import SlotBinding.Sink.Basic

/-!
# One run over all sites of a crate

Sites are validated one by one, grouped by host, and written one host at a time in the order of the
qualified names; the table of what was written comes last. A host whose name cannot be made an
identifier stops the run, and what was written before stays.
-/

namespace SlotBinding

/-- What makes artifacts out of sites. -/
structure Generator where
  config : Config
  renderer : Renderer
  deriving Repr, DecidableEq, Inhabited

namespace Generator

/-- The generator of a configuration, whose runtime path must be a path. -/
def ofConfig (c : Config) : Except BuildError Generator :=
  c.runtimeTokens.map fun runtime => { config := c, renderer := { runtime } }

/-- What was written so far. -/
structure WriteLog where
  written : List HostModel := []
  artifacts : List ArtifactRecord := []
  diagnostics : List Diagnostic := []
  deriving Inhabited

def hostFailure (m : HostModel) (e : ArtifactError) : Diagnostic :=
  .error .artifactWriteFailure (some m.location)
    ("unable to write binder for type `" ++ m.qualifiedName ++ "`: " ++ e.message)

def tableFailure (e : ArtifactError) : Diagnostic :=
  .error .artifactWriteFailure none ("unable to write binder table: " ++ e.message)

/-- The log of a host whose creation was answered, in front of the log of the others. -/
def WriteLog.record (m : HostModel) (file : String) (answer : Option ArtifactError)
    (rest : WriteLog) : WriteLog :=
  match answer with
  | none =>
    { written := m :: rest.written
      artifacts := { host := m.qualifiedName, binderName := m.binderName, file } :: rest.artifacts
      diagnostics := rest.diagnostics }
  | some e => { rest with diagnostics := hostFailure m e :: rest.diagnostics }

def artifact (g : Generator) (m : HostModel) : Except NameFault (String × String) := do
  let text ← g.renderer.binder m
  let file ← m.artifactPath
  return (text, file)

def writeModels (g : Generator) (k : Sink σ) : List HostModel → σ → Except NameFault WriteLog × σ
  | [], s => (.ok {}, s)
  | m :: rest, s =>
    match g.artifact m with
    | .error f => (.error f, s)
    | .ok (text, file) =>
      let (s, answer) := k.create s file text
      let (log, s) := writeModels g k rest s
      (log.map (WriteLog.record m file answer), s)

def writeTable (g : Generator) (k : Sink σ) (ms : List HostModel) (s : σ) :
    Except NameFault (Option ArtifactError) × σ :=
  match g.renderer.table ms with
  | .error f => (.error f, s)
  | .ok text =>
    let (s, answer) := k.create s tableFile text
    (.ok answer, s)

/-- The valid sites by host. -/
def group (g : Generator) (sites : List Site) : Grouping :=
  .ofSites g.config.duplicateSlots (sites.filterMap (·.valid?))

def reportOf (before : List Diagnostic) (log : WriteLog) (answer : Option ArtifactError) : Report :=
  { artifacts := log.artifacts
    table := if answer.isNone then some tableFile else none
    diagnostics := before ++ log.diagnostics ++ (answer.map tableFailure).toList }

/-- Runs over the sites of a crate and creates the artifacts in a sink. -/
def runPass (g : Generator) (sites : List Site) (k : Sink σ) (s : σ) :
    Except NameFault Report × σ :=
  let grouping := g.group sites
  let before := sites.filterMap (·.rejection?) ++ grouping.diagnostics
  match g.writeModels k grouping.models.values s with
  | (.error f, s) => (.error f, s)
  | (.ok log, s) =>
    match g.writeTable k log.written s with
    | (.error f, s) => (.error f, s)
    | (.ok answer, s) => (.ok (reportOf before log answer), s)

end Generator

end SlotBinding
