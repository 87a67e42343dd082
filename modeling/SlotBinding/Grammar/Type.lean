import SlotBinding.Grammar.Bound

/-!
# Types
-/

namespace SlotBinding.Grammar

open Syntax Parser

def typeStarts : List Expect :=
  [.word "for", .group .paren, .word "fn", .word "unsafe", .word "extern", .name, .op "::", .op "<",
   .word "dyn", .group .bracket, .op "*", .op "&", .op "!", .word "impl", .word "_", .lifetime]

/-- What can follow the parameters that a `for` brings in. -/
def boundTypeStarts : List Expect :=
  [.name, .word "fn", .word "unsafe", .word "extern", .word "super", .word "self", .word "Self",
   .word "crate"]

def moreBounds (g : Grammar) : Parser (List BoundShape) :=
  collect do
    if ← op? "+" then return some (← g.bound false false) else return none

/-- An object type without its `dyn`; it needs a trait. -/
def objectBounds (g : Grammar) (plus : Bool) : Parser TypeShape := do
  let (bounds, trailing) ← boundSum g plus false false
  if bounds.contains .trait then return .bareBounds bounds trailing
  failPlain "at least one trait is required for an object type"

def objectType (g : Grammar) : Parser TypeShape := do
  if ← word? "dyn" then
    discard <| objectBounds g true
    return .other
  else objectBounds g true

/-- What stands between the parentheses of a type. -/
inductive ParenType
  /-- Nothing, or elements with commas. -/
  | tuple
  /-- An object type that starts with a lifetime. -/
  | object
  /-- Bounds of which the first one is relaxed. -/
  | relaxed (bounds : List BoundShape)
  | type (shape : TypeShape)

def parenTypeInside (g : Grammar) : Parser ParenType := do
  if ← atEnd then return .tuple
  if ← peek .lifetime then
    discard <| objectType g
    return .object
  if ← peek (.op "?") then
    discard <| traitBound g false
    return .relaxed [.trait]
  let first ← g.type true
  if ← op? "," then
    discard <| commaTerminated (g.type true)
    return .tuple
  return .type first

/-- The written tokens, newest first, with one of two nested parentheses at their end. -/
def mergeParens : List Token → List Token
  | .group p .paren [.group _ .paren inner] :: before => .group p .paren inner :: before
  | written => written

/-- A type in parentheses, a tuple, or bounds of which the first is in parentheses. -/
def parenType (g : Grammar) (plus : Bool) : Parser TypeShape := do
  match ← inGroup .paren (parenTypeInside g) with
  | .tuple => return .other
  | .object => return .paren
  | .relaxed first => return .bareBounds (first ++ (← moreBounds g)) false
  | .type shape =>
    if !(plus && (← peek (.op "+"))) then return .paren
    match shape with
    | .path false _ => return .bareBounds (.trait :: (← moreBounds g)) false
    | .bareBounds [.trait] false =>
      modify fun s => { s with written := mergeParens s.written }
      return .bareBounds (.trait :: (← moreBounds g)) false
    | .bareBounds [b] false => return .bareBounds (b :: (← moreBounds g)) false
    | _ => return .paren

/-- An argument of a function type; the first one may be the receiver. -/
def functionTypeArgument (g : Grammar) (first : Bool) : Parser Unit := do
  discard <| outerAttributes g
  let start ← get
  let mutSelf := first && (← peek (.word "mut")) && (← peek2 (.word "self"))
  if mutSelf then word "mut"
  let isSelf := first && (← peek (.word "self"))
  let named := ((← peekAny [.name, .word "_"]) || isSelf) && (← peek2 (.op ":"))
    && !(← peek2 (.op "::"))
  if named then
    discard anyWord
    op ":"
  let receiver ← do
    if first && !(named && isSelf) && (← peek (.word "mut")) && (← peek2 (.word "self")) then
      word "mut"
      word "self"
      pure true
    else if mutSelf && !named then
      word "self"
      pure true
    else
      discard <| g.type true
      pure false
  if receiver || mutSelf then verbatimSince start

/-- Whether the rest of the arguments is left open here. -/
def openArgumentsFollow : Parser Bool := do
  return (← peek (.op "..."))
    || ((← peekAny [.name, .word "_"]) && (← peek2 (.op ":")) && (← peek3 (.op "...")))

def openArguments : Parser Unit := do
  if ← peekAny [.name, .word "_"] then
    discard anyWord
    op ":"
  op "..."
  discard <| op? ","

/-- The arguments of a function type, from a given one on. -/
def functionTypeArguments (g : Grammar) : Nat → Bool → Parser Unit
  | 0, _ => return ()
  | n + 1, first => do
    if ← atEnd then return ()
    discard <| outerAttributes g
    if ← openArgumentsFollow then openArguments
    else
      functionTypeArgument g first
      if !(← atEnd) then
        op ","
        functionTypeArguments g n false

def convention? : Parser Bool := do
  if ← word? "extern" then
    if ← peek .string then discard literal
    return true
  else return false

def functionType (g : Grammar) : Parser Unit := do
  discard <| word? "unsafe"
  discard convention?
  word "fn"
  inGroup .paren do functionTypeArguments g ((← get).rest.length + 1) true
  returnType g false

def traitAndMore (g : Grammar) (plus : Bool) : Parser TypeShape := do
  if !(plus && (← peek (.op "+"))) then return .bareBounds [.trait] false
  op "+"
  if !(← boundFollows) then return .bareBounds [.trait] true
  let rec more : Nat → Parser (List BoundShape × Bool)
    | 0 => return ([], false)
    | n + 1 => do
      let b ← g.bound false false
      if !(← op? "+") then return ([b], false)
      if !(← boundFollows) then return ([b], true)
      let (bs, trailing) ← more n
      return (b :: bs, trailing)
  let (bs, trailing) ← more ((← get).rest.length + 1)
  return .bareBounds (.trait :: bs) trailing

/-- A path, an invocation, or bounds that start with a path; the tokens are those of a binder in
front, which an invocation does not keep. -/
def pathType (g : Grammar) (plus : Bool) (binder : List Token) : Parser TypeShape := do
  let ((qualified, p), tokens) ← silently (qualifiedPath g false)
  if !qualified && (← peek (.op "!")) && !(← peek (.op "!=")) && p.isPlain then
    write tokens
    op "!"
    discard rawGroup
    return .other
  write (binder ++ tokens)
  if qualified then return .path true false
  if !binder.isEmpty || (plus && (← peek (.op "+"))) then traitAndMore g plus
  else return .path false (!p.rooted && p.segments.length = 1)

/-! ### Types -/

/-- An object type with `dyn`; a form with a star is taken as it is written. -/
def dynType (g : Grammar) (plus : Bool) : Parser TypeShape := do
  let start ← get
  word "dyn"
  let star ← op? "*"
  discard <| objectBounds g plus
  if star then verbatimSince start
  return .other

def bracketType (g : Grammar) : Parser TypeShape := do
  inGroup .bracket do
    discard <| g.type true
    if ← op? ";" then discard <| g.expr true
  return .other

def pointerType (g : Grammar) : Parser TypeShape := do
  op "*"
  if !((← word? "const") || (← word? "mut")) then failExpected [.word "const", .word "mut"]
  discard <| g.type false
  return .other

def referenceType (g : Grammar) : Parser TypeShape := do
  op "&"
  discard lifetime?
  discard <| word? "mut"
  discard <| g.type false
  return .other

/-- Some type with the given bounds; one of them must be a trait. -/
def implType (g : Grammar) (plus : Bool) : Parser TypeShape := do
  word "impl"
  let (bounds, _) ← boundSum g plus true true
  if bounds.contains .trait || bounds.contains .other then return .other
  failPlain "at least one trait must be specified"

def readType (g : Grammar) (plus : Bool) : Parser TypeShape := do
  let start ← get
  let (bound, binder) ← silently (binder? g)
  if bound && (!(← peekAny boundTypeStarts) || (← peek (.word "dyn"))) then
    failExpected boundTypeStarts
  if ← peek (.group .paren) then parenType g plus
  else if ← peekAny [.word "fn", .word "unsafe", .word "extern"] then
    write binder
    functionType g
    return .other
  else if ← builtinFollows then
    builtinForm
    verbatimSince start
    return .other
  else if ← peekAny [.name, .word "super", .word "self", .word "Self", .word "crate", .op "::",
      .op "<"] then
    pathType g plus binder
  else if ← peek (.word "dyn") then dynType g plus
  else if ← peek (.group .bracket) then bracketType g
  else if ← peek (.op "*") then pointerType g
  else if ← peek (.op "&") then referenceType g
  else if ← op? "!" then return .other
  else if ← peek (.word "impl") then implType g plus
  else if ← word? "_" then return .other
  else if ← peek .lifetime then objectType g
  else failExpected typeStarts

end SlotBinding.Grammar
