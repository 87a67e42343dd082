import SlotBinding.Collection.SortedMap
import SlotBinding.Model.Host

/-!
# The models of one run

Models are kept by qualified name and are listed in the order of these names.
-/

namespace SlotBinding

/-- The models of all hosts by qualified name. -/
abbrev ModelSet := SortedMap String HostModel

namespace ModelSet

def modelOf (s : ModelSet) (h : Host) : HostModel :=
  (s.get? h.qualifiedName).getD (.ofHost h)

def enter (s : ModelSet) (h : Host) : ModelSet := s.insert h.qualifiedName (s.modelOf h)

def bind (s : ModelSet) (h : Host) (slot : Int32) (f : BoundField) : ModelSet :=
  s.insert h.qualifiedName ((s.modelOf h).bind slot f)

end ModelSet

end SlotBinding
