import SlotBinding.Token.Print

/-!
# Declarations

What a source file declares, as far as attributes, names, visibilities, field types and nesting go.
Types and attribute arguments are kept as canonical tokens.
-/

namespace SlotBinding.Syntax

structure ModPath where
  /-- Whether the path starts with `::`. -/
  rooted : Bool
  segments : List String
  deriving Repr, DecidableEq, Inhabited

def ModPath.isWord (p : ModPath) (w : String) : Bool := !p.rooted && p.segments == [w]

/-- What follows the path of an attribute. -/
inductive AttributeArgument
  | none
  | list (delimiter : Delimiter) (inner : List Token)
  /-- A value after `=`, kept where it is a literal. -/
  | value (literal : Option Literal)
  deriving Repr, Inhabited

/-- An attribute. The style, outer or inner, is not kept. -/
structure Attribute where
  /-- Where the attribute starts. -/
  start : Position
  path : ModPath
  argument : AttributeArgument
  /-- The canonical tokens between the brackets. -/
  inside : List Token
  deriving Repr, Inhabited

namespace Attribute

def tokens (a : Attribute) : List Token :=
  [.punct .unknown '#' .alone, .ofGroup .bracket a.inside]

def text (a : Attribute) : String := Token.textAll a.tokens

end Attribute

inductive Visibility
  | inherited
  | «public»
  | restricted (path : ModPath)
  deriving Repr, DecidableEq, Inhabited

/-- A field; fields of tuples have no name. -/
structure FieldDecl where
  attributes : List Attribute
  visibility : Visibility
  name : Option String
  type : List Token
  deriving Repr, Inhabited

structure VariantDecl where
  attributes : List Attribute
  name : String
  fields : List FieldDecl
  deriving Repr, Inhabited

structure StructDecl where
  attributes : List Attribute
  visibility : Visibility
  /-- Where the name stands. -/
  start : Position
  name : String
  /-- Whether the struct has parameters. -/
  generic : Bool
  fields : List FieldDecl
  deriving Repr, Inhabited

structure ModuleDecl where
  attributes : List Attribute
  visibility : Visibility
  /-- Where the name stands. -/
  start : Position
  name : String
  deriving Repr, Inhabited

inductive MemberKind
  | method
  | const
  | type
  deriving Repr, DecidableEq, Inhabited

structure MemberDecl where
  kind : MemberKind
  attributes : List Attribute
  name : String
  deriving Repr, Inhabited

/-- Items of which only the attributes and the name matter. -/
inductive SimpleKind
  | function
  | const
  | static
  | typeAlias
  | externCrate
  | traitAlias
  | invocation
  | import
  | foreignBlock
  deriving Repr, DecidableEq, Inhabited

inductive Item
  | struct (decl : StructDecl)
  | enum (attributes : List Attribute) (name : String) (variants : List VariantDecl)
  | union (attributes : List Attribute) (name : String) (fields : List FieldDecl)
  | impl (attributes : List Attribute) (target : List Token) (members : List MemberDecl)
  | trait (attributes : List Attribute) (name : String) (members : List MemberDecl)
  /-- A module with its content, or with none where the content is in a file of its own. -/
  | mod (decl : ModuleDecl) (content : Option (List Item))
  | simple (kind : SimpleKind) (attributes : List Attribute) (name : Option String)
  /-- An item that the grammar takes but gives no structure to, not even attributes. -/
  | shapeless
  deriving Repr, Inhabited

namespace Item

def attributes : Item → List Attribute
  | struct d => d.attributes
  | enum as _ _ | union as _ _ | impl as _ _ | trait as _ _ | simple _ as _ => as
  | mod d _ => d.attributes
  | shapeless => []

def withAttributes (before : List Attribute) : Item → Item
  | struct d => struct { d with attributes := before ++ d.attributes }
  | enum as n vs => enum (before ++ as) n vs
  | union as n fs => union (before ++ as) n fs
  | impl as t ms => impl (before ++ as) t ms
  | trait as n ms => trait (before ++ as) n ms
  | mod d c => mod { d with attributes := before ++ d.attributes } c
  | simple k as n => simple k (before ++ as) n
  | shapeless => shapeless

end Item

structure SourceFile where
  /-- The inner attributes at its front. -/
  attributes : List Attribute
  items : List Item
  deriving Repr, Inhabited

end SlotBinding.Syntax
