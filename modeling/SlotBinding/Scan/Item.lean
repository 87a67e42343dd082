import SlotBinding.Scan.Basic

/-!
# The sites of one item

The marks on an item, its fields, variants and members. Modules are followed elsewhere.
-/

namespace SlotBinding.Scan

open Syntax (Attribute FieldDecl Item MemberDecl MemberKind SimpleKind StructDecl VariantDecl)

/-- A site for every mark among some attributes. -/
def sitesOf (c : ModuleContext) (as : List Attribute) (element : Element) : List Site :=
  (as.filter (·.isMark)).map fun a =>
    { location := c.location a.start, slot := .ofAttribute a, element }

/-- The sites on something that is not a field of a struct. -/
def misplaced (c : ModuleContext) (as : List Attribute) (kind : ElementKind) (name : String) :
    List Site :=
  sitesOf c as (.other kind name)

def hostOf (crateName : String) (c : ModuleContext) (d : StructDecl) : Host :=
  { crateName
    modulePath := c.path
    name := plainName d.name
    access := .ofVisibility d.visibility c.depth
    generic := d.generic
    sealedModule := c.sealedModule
    cfg := c.cfg ++ cfgAttributes d.attributes
    location := c.location d.start }

/-- The field at a position. -/
def memberOf (position : Nat) (f : FieldDecl) : Member :=
  match f.name with
  | some name => .named name
  | none => .index position

def fieldSites (c : ModuleContext) (host : Host) : Nat → List FieldDecl → List Site
  | _, [] => []
  | n, f :: rest =>
    sitesOf c f.attributes
        (.field host (memberOf n f) f.type (.ofVisibility f.visibility c.depth))
      ++ fieldSites c host (n + 1) rest

def structSites (crateName : String) (c : ModuleContext) (d : StructDecl) : List Site :=
  misplaced c d.attributes .struct d.name ++ fieldSites c (hostOf crateName c d) 0 d.fields

def variantFieldSites (c : ModuleContext) (variant : String) : Nat → List FieldDecl → List Site
  | _, [] => []
  | n, f :: rest =>
    misplaced c f.attributes .variantField (variant ++ "." ++ (memberOf n f).text)
      ++ variantFieldSites c variant (n + 1) rest

def variantSites (c : ModuleContext) (enum : String) (v : VariantDecl) : List Site :=
  let name := enum ++ "::" ++ v.name
  misplaced c v.attributes .variant name ++ variantFieldSites c name 0 v.fields

def unionFieldSites (c : ModuleContext) (union : String) (f : FieldDecl) : List Site :=
  misplaced c f.attributes .unionField (union ++ "." ++ f.name.getD "")

def memberElement : MemberKind → ElementKind
  | .method => .method
  | .const => .associatedConst
  | .type => .associatedType

def memberSites (c : ModuleContext) (owner : String) (m : MemberDecl) : List Site :=
  misplaced c m.attributes (memberElement m.kind) (owner ++ "::" ++ m.name)

def simpleElement : SimpleKind → ElementKind
  | .function => .function
  | .const => .const
  | .static => .static
  | .typeAlias => .typeAlias
  | _ => .other

/-- How an item is named whose kind is all that matters. -/
def simpleName (kind : SimpleKind) (name : Option String) : String :=
  match kind with
  | .invocation => name.getD "macro invocation"
  | .import => "use declaration"
  | .foreignBlock => "extern block"
  | _ => name.getD "item"

/-- The sites on an item and its parts, but not those inside a module. -/
def itemSites (crateName : String) (c : ModuleContext) : Item → List Site
  | .struct d => structSites crateName c d
  | .enum as name variants =>
    misplaced c as .enum name ++ variants.flatMap (variantSites c name)
  | .union as name fields =>
    misplaced c as .union name ++ fields.flatMap (unionFieldSites c name)
  | .impl as target members =>
    let owner := Token.textAll target
    misplaced c as .impl owner ++ members.flatMap (memberSites c owner)
  | .trait as name members =>
    misplaced c as .trait name ++ members.flatMap (memberSites c name)
  | .mod d _ => misplaced c d.attributes .module d.name
  | .simple kind as name => misplaced c as (simpleElement kind) (simpleName kind name)
  | .shapeless => []

end SlotBinding.Scan
