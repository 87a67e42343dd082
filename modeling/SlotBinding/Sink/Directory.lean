import SlotBinding.Files.Tree
import SlotBinding.Sink.Basic

/-!
# The sink in a directory

Files from an earlier run are written over; one sink creates a name only once.
-/

namespace SlotBinding

open Files (Path Tree)

/-- A directory that artifacts are written to, in a file tree. -/
structure DirectorySink where
  root : Path
  /-- The names that were created. -/
  created : List String := []
  tree : Tree
  deriving Inhabited

namespace DirectorySink

def fresh (root : Path) (t : Tree) : DirectorySink := { root, tree := t }

/-- The tree with the directories above a path, and the fault if they cannot be made. -/
def withParents (t : Tree) (p : Path) : Tree × Option Files.Fault :=
  match p.parent? with
  | some dir => t.makeDirectories dir
  | none => (t, none)

/-- The sink after a creation. Directories that were made on the way stay when it fails. -/
def create (s : DirectorySink) (name text : String) : DirectorySink × Option ArtifactError :=
  if s.created.contains name then (s, some (.alreadyExists name))
  else
    let p := s.root.join name
    match withParents s.tree p with
    | (t, some f) => ({ s with tree := t }, some (.io name f))
    | (t, none) =>
      match t.write p text with
      | .error f => ({ s with tree := t }, some (.io name f))
      | .ok t => ({ s with tree := t, created := name :: s.created }, none)

def sink : Sink DirectorySink := ⟨create⟩

end DirectorySink

end SlotBinding
