import SlotBinding.Config.Basic
import SlotBinding.Model.Set

/-!
# Valid sites by host

Sites are taken in order. A slot that its host has already is reported, and the policy says which of
the two fields stays.
-/

namespace SlotBinding

/-- The models so far and what was reported on the way. -/
structure Grouping where
  models : ModelSet := {}
  diagnostics : List Diagnostic := []
  deriving Inhabited

namespace Grouping

/-- The report on a slot that a field was bound to before. -/
def duplicate (policy : DuplicatePolicy) (v : ValidSite) (before : BoundField) : Diagnostic :=
  let message :=
    "slot " ++ toString v.slot.toInt ++ " is declared twice on `" ++ v.host.qualifiedName
      ++ "` (fields `" ++ before.name ++ "` and `" ++ v.field.name ++ "`)"
  match policy with
  | .warn =>
    .warning .duplicateSlot (some v.location) (message ++ "; the later declaration wins")
  | .deny => .error .duplicateSlot (some v.location) message

def add (policy : DuplicatePolicy) (g : Grouping) (v : ValidSite) : Grouping :=
  match (ModelSet.modelOf g.models v.host).bindings.get? v.slot with
  | none => { g with models := ModelSet.bind g.models v.host v.slot v.field }
  | some before =>
    { models :=
        match policy with
        | .warn => ModelSet.bind g.models v.host v.slot v.field
        | .deny => ModelSet.enter g.models v.host
      diagnostics := g.diagnostics ++ [duplicate policy v before] }

def ofSites (policy : DuplicatePolicy) (vs : List ValidSite) : Grouping :=
  vs.foldl (add policy) {}

end Grouping

end SlotBinding
