import SlotBinding.Collection.InsertionMap
import SlotBinding.Model.Identifier
import SlotBinding.Validation

/-!
# The model of a host

What is generated for one struct: its name, the conditions it is compiled under, and the field of each
slot in the order in which the slots were first declared.
-/

namespace SlotBinding

/-- What a struct's qualified name gets to be the name of its binder. -/
def binderSuffix : String := "$$Bind"

def binderName (hostPath : String) : String := hostPath ++ binderSuffix

/-- The field of each slot. -/
abbrev BindingMap := InsertionMap Int32 BoundField

structure HostModel where
  crateName : String
  modulePath : List String
  name : String
  location : Location := {}
  cfg : List Syntax.Attribute := []
  bindings : BindingMap := {}
  deriving Inhabited

namespace HostModel

def ofHost (h : Host) : HostModel :=
  { crateName := h.crateName
    modulePath := h.modulePath
    name := h.name
    location := h.location
    cfg := h.cfg }

def bind (m : HostModel) (slot : Int32) (f : BoundField) : HostModel :=
  { m with bindings := m.bindings.insert slot f }

def segments (m : HostModel) : List String := m.crateName :: m.modulePath ++ [m.name]

/-- The name by which the struct is known in the whole program. -/
def qualifiedName (m : HostModel) : String :=
  m.crateName ++ String.join ((m.modulePath ++ [m.name]).map ("::" ++ ·))

def binderName (m : HostModel) : String := SlotBinding.binderName m.qualifiedName

/-- The segments without raw marks, joined for one identifier. -/
def mangledName (m : HostModel) : String :=
  "__".intercalate (m.segments.map fun s => (Identifier.behindMark? s).getD s)

def binderIdent (m : HostModel) : Except NameFault String :=
  Identifier.ofText (m.mangledName ++ "__Bind")

def artifactFile (m : HostModel) : Except NameFault String := m.binderIdent.map (· ++ ".rs")

def pathSegments (m : HostModel) : Except NameFault (List String) :=
  (m.modulePath ++ [m.name]).mapM Identifier.ofSegment

def typePath (m : HostModel) : Except NameFault String :=
  m.pathSegments.map fun ss => " :: ".intercalate ("crate" :: ss)

end HostModel

end SlotBinding
