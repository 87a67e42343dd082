import SlotBinding.Grammar.Basic

/-!
# Attributes, plain paths and visibilities
-/

namespace SlotBinding.Grammar

open Syntax Parser

def pathKeywords : List Expect := [.word "super", .word "self", .word "Self", .word "crate"]

/-- The segments of a plain path; a separator needs a segment behind it. -/
def modSegments : Nat → Parser (List String)
  | 0 => failPlain "expected path segment after `::`"
  | n + 1 => do
    if ← peekAny (.name :: pathKeywords) then
      let w ← anyWord
      if ← op? "::" then return w.2 :: (← modSegments n) else return [w.2]
    else failHere "expected path segment after `::`"

def modPath : Parser ModPath := do
  let rooted ← op? "::"
  if ← peekAny (.name :: pathKeywords) then
    return ⟨rooted, ← modSegments ((← get).rest.length + 1)⟩
  else
    let w ← name
    return ⟨rooted, [w.2]⟩

/-- A visibility. A parenthesis that does not restrict it is left where it is. -/
def visibility : Parser Visibility := do
  if !(← word? "pub") then return .inherited
  match (← get).rest with
  | .group _ .paren (.word _ w :: inner) :: _ =>
    if ["crate", "self", "super"].contains w then
      if inner.isEmpty then
        discard <| inGroup .paren anyWord
        return .restricted ⟨false, [w]⟩
      else return .public
    else if w == "in" then
      return .restricted (← inGroup .paren do word "in"; modPath)
    else return .public
  | _ => return .public

/-- The value of an attribute: a literal that stands alone, or an expression. -/
def attributeValue (g : Grammar) : Parser (Option Literal) := do
  match frontLiteral (← get).rest with
  | some (_, []) =>
    match ← literal with
    | .literal l => return some l
    | .truth _ => return none
  | _ =>
    if (← peek (.op "#")) && (← peek2 (.group .bracket)) then
      failHere "unexpected attribute inside of attribute"
    discard <| g.expr true
    return none

def attributeInside (g : Grammar) : Parser (ModPath × AttributeArgument) := do
  let path ← do
    if ← word? "unsafe" then pure ⟨false, ["unsafe"]⟩ else modPath
  if ← peekAny [.group .paren, .group .bracket, .group .brace] then
    let (d, inner) ← rawGroup
    return (path, .list d inner)
  else if (← peek (.op "=")) && !(← peekAny [.op "==", .op "=>"]) then
    op "="
    return (path, .value (← attributeValue g))
  else
    return (path, .none)

def attributeBody (g : Grammar) (start : Position) : Parser Attribute := do
  let ((path, argument), inside) ← inGroup .bracket (captured (attributeInside g))
  return { start, path, argument, inside }

def outerAttributes (g : Grammar) : Parser (List Attribute) :=
  collect do
    let start ← here
    if ← op? "#" then return some (← attributeBody g start) else return none

/-- The attributes at the front of a body that belong to what encloses it. -/
def innerAttributes (g : Grammar) : Parser (List Attribute) :=
  collect do
    let start ← here
    if (← peek (.op "#")) && (← peek2 (.op "!")) then
      op "#"
      op "!"
      return some (← attributeBody g start)
    else return none

end SlotBinding.Grammar
