import SlotBinding.Collection.SortedMap
import SlotBinding.Sink.Basic

/-!
# The sink in memory
-/

namespace SlotBinding

abbrev MemorySink := SortedMap String String

namespace MemorySink

/-- The sink after a creation; a name can be used once. -/
def create (s : MemorySink) (name text : String) : MemorySink × Option ArtifactError :=
  if s.contains name then (s, some (.alreadyExists name)) else (s.insert name text, none)

def sink : Sink MemorySink := ⟨create⟩

end MemorySink

end SlotBinding
