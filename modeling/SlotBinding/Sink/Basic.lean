import SlotBinding.Files.Fault

/-!
# Sinks of generated sources

A sink answers every creation of a named artifact with a new state and perhaps an error.
-/

namespace SlotBinding

/-- Why an artifact was not created. -/
inductive ArtifactError
  | alreadyExists (name : String)
  | io (name : String) (fault : Files.Fault)
  deriving Repr, DecidableEq, Inhabited

namespace ArtifactError

def message : ArtifactError → String
  | alreadyExists name => "artifact `" ++ name ++ "` already exists in this pass"
  | io name fault => "failed to write artifact `" ++ name ++ "`: " ++ fault.message

end ArtifactError

/-- A way to keep artifacts in a state. -/
structure Sink (σ : Type u) where
  /-- Creates an artifact of a name with a text. -/
  create : σ → String → String → σ × Option ArtifactError

namespace Sink

variable {σ : Type u}

/-- The sink that refuses some names before anything else. -/
def refusing (names : List String) (fault : Files.Fault) (k : Sink σ) : Sink σ where
  create s name text :=
    if names.contains name then (s, some (.io name fault)) else k.create s name text

end Sink

end SlotBinding
