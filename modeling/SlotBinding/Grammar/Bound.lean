import SlotBinding.Grammar.Path

/-!
# Parameters, bounds and conditions
-/

namespace SlotBinding.Grammar

open Syntax Parser

/-- A parameter of a declaration, in canonical tokens. -/
structure ParameterDecl where
  lifetime : Bool
  attributes : List Token
  /-- The word `const` in front of a constant. -/
  lead : List Token
  name : List Token
  /-- The bounds, or the type of a constant, with the colon. -/
  bounds : List Token
  /-- What it is where nothing is given, with the equals sign. -/
  default : List Token := []
  /-- Whether a comma follows. -/
  comma : Bool
  deriving Inhabited

namespace ParameterDecl

/-- The parameter as it stands where it is declared, without its default. -/
def declared (p : ParameterDecl) : Listed :=
  ⟨p.lifetime, p.attributes ++ p.lead ++ p.name ++ p.bounds, p.comma⟩

/-- The parameter as it stands in the source. -/
def complete (p : ParameterDecl) : Listed :=
  ⟨p.lifetime, p.attributes ++ p.lead ++ p.name ++ p.bounds ++ p.default, p.comma⟩

/-- The parameter as it stands where it is used. -/
def used (p : ParameterDecl) : Listed := ⟨p.lifetime, p.name, p.comma⟩

end ParameterDecl

/-- A list between angle brackets, or nothing for no parts. -/
def angled (parts : List Listed) : List Token :=
  if parts.isEmpty then []
  else Token.ofOperator ['<'] ++ Listed.arrange parts ++ Token.ofOperator ['>']

/-- Bounds behind a colon; without any bound the colon is not written either. -/
def optionalBounds (stop : Parser Bool) (bound : Parser BoundShape) : Parser Unit := do
  if ← peek (.op ":") then
    let (_, colon) ← silently (op ":")
    if !(← stop) then
      write colon
      boundsUpTo stop bound

def parameterStop : Parser Bool := do
  return (← atEnd) || (← peekAny [.op ",", .op ">", .op "="])

def lifetimeParameter (attributes : List Token) : Parser ParameterDecl := do
  let (_, name) ← silently lifetime
  let (_, bounds) ← silently do
    optionalBounds (do return (← atEnd) || (← peekAny [.op ",", .op ">"]))
      (do lifetime; return .lifetime)
  return { lifetime := true, attributes, lead := [], name, bounds, comma := false }

def typeParameter (g : Grammar) (attributes : List Token) : Parser ParameterDecl := do
  let (_, name) ← silently anyWord
  let (_, bounds) ← silently (optionalBounds parameterStop (g.bound false true))
  let (_, default) ← silently do
    if ← op? "=" then discard <| g.type true
  return { lifetime := false, attributes, lead := [], name, bounds, default, comma := false }

def constParameter (g : Grammar) (attributes : List Token) : Parser ParameterDecl := do
  let (_, lead) ← silently (word "const")
  let (_, name) ← silently Parser.name
  let (_, bounds) ← silently do
    op ":"
    discard <| g.type true
  let (_, default) ← silently do
    if ← op? "=" then constArgument g
  return { lifetime := false, attributes, lead, name, bounds, default, comma := false }

inductive ParameterPlace
  | declaration
  | binder
  deriving DecidableEq

def ParameterPlace.starts : ParameterPlace → List Expect
  | declaration => [.lifetime, .name, .word "const"]
  | binder => [.name, .lifetime, .word "const"]

/-- A parameter without its comma; one of a declaration may be left unnamed. -/
def parameter (g : Grammar) (place : ParameterPlace) : Parser ParameterDecl := do
  let (_, attributes) ← silently (outerAttributes g)
  if ← peek .lifetime then lifetimeParameter attributes
  else if ← peek .name then typeParameter g attributes
  else if ← peek (.word "const") then constParameter g attributes
  else if place = .declaration && (← peek (.word "_")) then
    let (_, name) ← silently anyWord
    return { lifetime := false, attributes, lead := [], name, bounds := [], comma := false }
  else failExpected place.starts

def parameterList (g : Grammar) (place : ParameterPlace) : Parser (List ParameterDecl) := do
  let (ps, _) ← silently do
    op "<"
    let ps ← collect do
      if ← peek (.op ">") then return none
      let p ← parameter g place
      if ← peek (.op ">") then return some p
      op ","
      return some { p with comma := true }
    op ">"
    return ps
  return ps

/-- The parameters of a declaration; nothing where no angle bracket stands. -/
def parameters (g : Grammar) : Parser (Option (List ParameterDecl)) := do
  if !(← peek (.op "<")) then return none
  let ps ← parameterList g .declaration
  write (angled (ps.map ParameterDecl.complete))
  return some ps

/-- Parameters that a `for` brings in, in the order of the source. -/
def binder (g : Grammar) : Parser Unit := do
  word "for"
  let ps ← parameterList g .binder
  let inside := ps.flatMap fun p => p.complete.tokens ++ if p.comma then Listed.commaTokens else []
  write (Token.ofOperator ['<'] ++ inside ++ Token.ofOperator ['>'])

def binder? (g : Grammar) : Parser Bool := do
  if ← peek (.word "for") then binder g; return true else return false

/-- Whether parameters, and not a qualified path, follow a `<`. -/
def parametersFollow : Parser Bool := do
  if !(← peek (.op "<")) then return false
  let named := (← peek2 .lifetime) || (← peek2 .name)
  return (← peek2 (.op ">")) || (← peek2 (.op "#")) || (← peek2 (.word "const"))
    || (named && (((← peek3 (.op ":")) && !(← peek3 (.op "::"))) || (← peek3 (.op ","))
      || (← peek3 (.op ">")) || (← peek3 (.op "="))))

/-- What was written, newest first, without an empty list of arguments at its end. -/
def dropEmptyArguments : List Token → List Token
  | .punct _ '>' _ :: .punct _ '<' _ :: .punct _ ':' _ :: .punct _ ':' _ :: before => before
  | .punct _ '>' _ :: .punct _ '<' _ :: before => before
  | written => written

/-- The path of a trait, perhaps with arguments in parentheses, which replace an empty list. -/
def traitPath (g : Grammar) : Parser Unit := do
  let p ← path g false
  if p.lastArguments ≠ .some && (← parenArgumentsFollow) then
    modify fun s => { s with written := dropEmptyArguments s.written }
    discard <| silently (op? "::")
    parenArguments g

/-- A bound that is a trait; says whether it is one without a mark for constants. -/
def traitBound (g : Grammar) (allowConst : Bool) : Parser Bool := do
  let before ← binder? g
  let conditional ← peek (.group .bracket)
  let always ← if conditional then pure false else peek (.word "const")
  if conditional then
    inGroup .bracket (word "const")
    if !allowConst then failPlain "`[const]` is not allowed here"
  else if always then
    word "const"
    if !allowConst then failPlain "`const` is not allowed here"
  let relaxed ← op? "?"
  let bound ← if !before && relaxed then binder? g else pure before
  traitPath g
  if bound && relaxed then
    failPlain "`for<...>` binder not allowed with `?` trait polarity modifier"
  return !(conditional || always)

/-- One captured parameter; says whether it is a lifetime. -/
def capturedParameter : Parser Bool := do
  if ← lifetime? then return true
  if ← peekAny [.name, .word "Self"] then
    discard anyWord
    return false
  failExpected [.lifetime, .name, .op ">"]

def captures : Parser Unit := do
  word "use"
  op "<"
  let parts ← collect do
    if ← peek (.op ">") then return none
    let (lifetime, tokens) ← silently capturedParameter
    if ← peek (.op ">") then return some ⟨lifetime, tokens, false⟩
    if ← peek (.op ",") then
      discard <| silently (op ",")
      return some ⟨lifetime, tokens, true⟩
    failExpected [.op ",", .op ">"]
  write (Listed.arrange parts)
  op ">"

def readBound (g : Grammar) (allowCapture allowConst : Bool) : Parser BoundShape := do
  if ← lifetime? then return .lifetime
  if ← peek (.word "use") then
    captures
    if allowCapture then return .capture
    failPlain "`use<...>` precise capturing syntax is not allowed here"
  let start ← get
  let ordinary ←
    if ← peek (.group .paren) then inGroup .paren (traitBound g allowConst)
    else traitBound g allowConst
  if ordinary then return .trait
  verbatimSince start
  return .other

def boundFollows : Parser Bool :=
  peekAny [.anyWord, .op "::", .op "?", .lifetime, .group .paren]

/-- At most so many bounds joined by `+`, and whether a `+` ends them. -/
def boundSumAtMost (g : Grammar) (plus allowCapture allowConst : Bool) :
    Nat → Parser (List BoundShape × Bool)
  | 0 => return ([], false)
  | n + 1 => do
    let b ← g.bound allowCapture allowConst
    if !(plus && (← peek (.op "+"))) then return ([b], false)
    op "+"
    if !((← boundFollows) || (allowConst && (← peek (.group .bracket)))) then return ([b], true)
    let (more, trailing) ← boundSumAtMost g plus allowCapture allowConst n
    return (b :: more, trailing)

def boundSum (g : Grammar) (plus allowCapture allowConst : Bool) :
    Parser (List BoundShape × Bool) := do
  boundSumAtMost g plus allowCapture allowConst ((← get).rest.length + 1)

def conditionsStop : Parser Bool := do
  return (← atEnd) || (← peekAny [.group .brace, .op ",", .op ";", .op "="])
    || ((← peek (.op ":")) && !(← peek (.op "::")))

def condition (g : Grammar) : Parser Unit := do
  if (← peek .lifetime) && (← peek2 (.op ":")) then
    lifetime
    op ":"
    boundsUpTo (do return (← atEnd) || (← peekAny [.group .brace, .op ",", .op ";", .op ":", .op "="]))
      (do lifetime; return .lifetime)
  else
    discard <| binder? g
    discard <| g.type true
    op ":"
    boundsUpTo conditionsStop (g.bound false true)

/-- The conditions on the parameters, if there is a list of them. An empty list is not written. -/
def conditions? (g : Grammar) : Parser Bool := do
  if !(← peek (.word "where")) then return false
  let (_, lead) ← silently (word "where")
  if ← parametersFollow then
    failHere "generic parameters on `where` clauses are reserved for future use"
  if !(← conditionsStop) then
    write lead
    repeatStep do
      if ← conditionsStop then return false
      condition g
      op? ","
  return true

end SlotBinding.Grammar
