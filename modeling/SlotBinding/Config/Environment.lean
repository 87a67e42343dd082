import SlotBinding.Collection.InsertionMap
import SlotBinding.Files.Tree

/-!
# Environments
-/

namespace SlotBinding

structure Environment where
  entries : InsertionMap String Files.Content := {}
  deriving Inhabited

namespace Environment

/-- The text of a variable; one whose bytes are no text reads as if it were not set. -/
def get? (e : Environment) (name : String) : Option String :=
  match e.entries.get? name with
  | some (.text s) => some s
  | _ => none

def ofList (vs : List (String × Files.Content)) : Environment :=
  ⟨vs.foldl (fun m v => m.insert v.1 v.2) {}⟩

def set (e : Environment) (name : String) (value : Files.Content) : Environment :=
  ⟨e.entries.insert name value⟩

def unset (e : Environment) (name : String) : Environment := ⟨e.entries.erase name⟩

end Environment

end SlotBinding
