import SlotBinding.Site.Access
import SlotBinding.Site.Location
import SlotBinding.Slot.Argument

/-!
# Declaration sites

A site is a place where a slot mark was written, with what the mark is attached to.
-/

namespace SlotBinding

/-- A field of a struct. -/
inductive Member
  | named (name : String)
  | index (position : Nat)
  deriving Repr, DecidableEq, Inhabited

def Member.text : Member → String
  | named name => name
  | index position => toString position

/-- A struct as its fields' sites know it. -/
structure Host where
  crateName : String
  modulePath : List String
  name : String
  access : Access
  /-- Whether the struct has parameters. -/
  generic : Bool
  /-- The outermost enclosing module that the crate root cannot name. -/
  sealedModule : Option String
  /-- The conditions on the enclosing modules and the struct, outermost first. -/
  cfg : List Syntax.Attribute
  location : Location
  deriving Inhabited

namespace Host

def qualifiedName (h : Host) : String :=
  "::".intercalate (h.crateName :: h.modulePath ++ [h.name])

def atCrateRoot (h : Host) : Bool := h.modulePath.isEmpty

end Host

inductive ElementKind
  | associatedConst
  | associatedType
  | const
  | enum
  | field
  | function
  | impl
  | method
  | module
  | other
  | static
  | struct
  | trait
  | typeAlias
  | union
  | unionField
  | variant
  | variantField
  deriving Repr, DecidableEq, Inhabited

namespace ElementKind

def label : ElementKind → String
  | associatedConst => "associated const"
  | associatedType => "associated type"
  | const => "const"
  | enum => "enum"
  | field => "field"
  | function => "function"
  | impl => "impl block"
  | method => "method"
  | module => "module"
  | other => "item"
  | static => "static"
  | struct => "struct"
  | trait => "trait"
  | typeAlias => "type alias"
  | union => "union"
  | unionField => "union field"
  | variant => "enum variant"
  | variantField => "enum variant field"

end ElementKind

/-- What the mark is attached to. -/
inductive Element
  | field (host : Host) (member : Member) (type : List Token) (access : Access)
  | other (kind : ElementKind) (name : String)
  deriving Inhabited

namespace Element

def kind : Element → ElementKind
  | field .. => .field
  | other k _ => k

def name : Element → String
  | field _ member _ _ => member.text
  | other _ n => n

end Element

/-- A place where a mark was written. -/
structure Site where
  location : Location
  slot : SlotArgument
  element : Element
  deriving Inhabited

end SlotBinding
