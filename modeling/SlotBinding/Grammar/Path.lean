import SlotBinding.Grammar.Attribute

/-!
# Paths with arguments

Lifetimes are written before all other arguments, whatever their order in the source.
-/

namespace SlotBinding.Grammar

open Syntax Parser

/-- A part of a list between angle brackets. -/
structure Listed where
  lifetime : Bool
  tokens : List Token
  /-- Whether a comma follows. -/
  comma : Bool

namespace Listed

def commaTokens : List Token := Token.ofOperator [',']

/-- The parts in order; a comma is put before a part that has none in front of it. -/
def join : Bool → List Listed → List Token
  | _, [] => []
  | separated, p :: rest =>
    (if separated then [] else commaTokens) ++ p.tokens ++ (if p.comma then commaTokens else [])
      ++ join p.comma rest

/-- The parts with the lifetimes first. -/
def arrange (parts : List Listed) : List Token :=
  join true (parts.filter (·.lifetime) ++ parts.filter fun p => !p.lifetime)

end Listed

/-- Parts up to a closing angle bracket; a part says whether it is a lifetime. -/
def angleList (part : Parser Bool) : Parser (List Listed) :=
  collect do
    if ← peek (.op ">") then return none
    let (lifetime, tokens) ← silently part
    if ← peek (.op ">") then return some ⟨lifetime, tokens, false⟩
    discard <| silently (op ",")
    return some ⟨lifetime, tokens, true⟩

def block (g : Grammar) : Parser Unit := inGroup .brace g.statements

def attributedBlock (g : Grammar) : Parser (List Attribute) :=
  inGroup .brace do
    let attributes ← innerAttributes g
    g.statements
    return attributes

def builtinFollows : Parser Bool := do
  return (← peek (.word "builtin")) && (← peek2 (.op "#"))

/-- A form that the compiler provides; what it is applied to can be anything. -/
def builtinForm : Parser Unit := do
  word "builtin"
  op "#"
  discard name
  inGroup .paren do discard rawRest

/-! ### Arguments and paths -/

/-- A constant where a type could stand. -/
def constArgument (g : Grammar) : Parser Unit := do
  if ← peek .literal then discard literal
  else if ← peek .name then discard name
  else if ← peek (.group .brace) then discard <| attributedBlock g
  else failExpected []

/-- Bounds joined by `+` up to a stop; they need not be there. -/
def boundsUpTo (stop : Parser Bool) (bound : Parser BoundShape) : Parser Unit :=
  repeatStep do
    if ← stop then return false
    discard bound
    op? "+"

/-- Bounds that must be joined by `+` up to a stop. -/
def boundsExactlyUpTo (stop : Parser Bool) (bound : Parser BoundShape) : Parser Unit :=
  repeatStep do
    if ← stop then return false
    discard bound
    if ← stop then return false
    op "+"
    return true

/-- One argument; says whether it is a lifetime. -/
def genericArgument (g : Grammar) : Parser Bool := do
  if (← peek .lifetime) && !(← peek2 (.op "+")) then
    lifetime
    return true
  if ← peekAny [.literal, .group .brace] then
    constArgument g
    return false
  match ← g.type true with
  | .path false true =>
    if ← op? "=" then
      if ← peekAny [.literal, .group .brace] then constArgument g else discard <| g.type true
    else if ← op? ":" then
      boundsUpTo (peekAny [.op ",", .op ">"]) (g.bound false true)
  | _ => pure ()
  return false

def angleArguments (g : Grammar) : Parser ArgumentShape := do
  op "<"
  let parts ← angleList (genericArgument g)
  write (Listed.arrange parts)
  op ">"
  return if parts.isEmpty then .empty else .some

def returnType (g : Grammar) (plus : Bool) : Parser Unit := do
  if ← op? "->" then discard <| g.type plus

def parenArguments (g : Grammar) : Parser Unit := do
  discard <| inGroup .paren (commaTerminated (g.type true))
  returnType g false

def parenArgumentsFollow : Parser Bool := do
  return (← peek (.group .paren)) || ((← peek (.op "::")) && (← peek3 (.group .paren)))

def pathSegment (g : Grammar) (inExpr : Bool) : Parser (String × ArgumentShape) := do
  if ← peekAny [.word "super", .word "self", .word "crate", .word "try"] then
    return ((← anyWord).2, .none)
  let w ← if ← peek (.word "Self") then anyWord else name
  let direct := !inExpr && (← peek (.op "<")) && !(← peekAny [.op "<=", .op "<<="])
  if direct || ((← peek (.op "::")) && (← peek3 (.op "<"))) then
    if inExpr then op "::" else discard <| op? "::"
    return (w.2, ← angleArguments g)
  return (w.2, .none)

/-- More segments; one before a parenthesis is left to the caller. -/
def pathRest (g : Grammar) (inExpr : Bool) : Parser (List (String × ArgumentShape)) :=
  collect do
    if (← peek (.op "::")) && !(← peek3 (.group .paren)) then
      op "::"
      return some (← pathSegment g inExpr)
    else return none

def path (g : Grammar) (inExpr : Bool) : Parser PathShape := do
  let rooted ← op? "::"
  let first ← pathSegment g inExpr
  return ⟨rooted, first :: (← pathRest g inExpr)⟩

/-- A path that may start in a type, as in `<T as Trait>::Item`; says whether it does. -/
def qualifiedPath (g : Grammar) (inExpr : Bool) : Parser (Bool × PathShape) := do
  if ← op? "<" then
    discard <| g.type true
    if ← word? "as" then discard <| path g false
    op ">"
    op "::"
    let first ← pathSegment g inExpr
    let more ← collect do
      if ← op? "::" then return some (← pathSegment g inExpr) else return none
    return (true, ⟨false, first :: more⟩)
  else return (false, ← path g inExpr)

end SlotBinding.Grammar
