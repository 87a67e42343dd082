import SlotBinding.Grammar.Path

/-!
# Patterns
-/

namespace SlotBinding.Grammar

open Syntax Parser

def patternStarts : List Expect :=
  [.name, .op "::", .op "<", .word "_", .literal, .word "const", .word "ref", .word "mut", .op "&",
   .group .paren, .group .bracket, .op "..", .word "const"]

def alternativeFollows : Parser Bool := do
  return (← peek (.op "|")) && !(← peekAny [.op "||", .op "|="])

def alternatives (g : Grammar) : Parser PatternShape := do
  let leading ← op? "|"
  let first ← g.pattern
  let more ← collect do
    if ← alternativeFollows then
      op "|"
      return some (← g.pattern)
    else return none
  return if leading || !more.isEmpty then .other else first

/-- The limits of a range; says whether the end belongs to it. -/
def rangeLimits : Parser Bool := do
  if ← op? "..=" then return true
  if ← peek (.op "...") then throw (.expected false ["`..=`"])
  if ← op? ".." then return false
  failExpected [.op ".."]

/-- The limits of a range in a pattern, where three dots stand for a closed range. -/
def patternRangeLimits : Parser Bool := do
  if ← op? "..=" then return true
  if ← peek (.op "...") then
    discard <| silently (op "...")
    write (Token.ofOperator ['.', '.', '='])
    return true
  if ← op? ".." then return false
  failExpected [.op ".."]

def rangeEndStarts : List Expect :=
  [.literal, .name, .op "::", .op "<", .word "self", .word "Self", .word "super", .word "crate",
   .word "const"]

/-- A block that is evaluated early. -/
def constBlock (g : Grammar) : Parser Unit := do
  word "const"
  discard <| attributedBlock g

def rangeEnd? (g : Grammar) : Parser Bool := do
  if (← atEnd) || (← peekAny [.op "|", .op "=", .op ",", .op ";", .word "if"])
      || ((← peek (.op ":")) && !(← peek (.op "::"))) then
    return false
  if ← peek .literal then discard literal
  else if ← peekAny [.name, .op "::", .op "<", .word "self", .word "Self", .word "super",
      .word "crate"] then
    discard <| outerAttributes g
    discard <| qualifiedPath g true
  else if ← peek (.word "const") then constBlock g
  else failExpected rangeEndStarts
  return true

def rangeTail (g : Grammar) : Parser PatternShape := do
  let closed ← patternRangeLimits
  if ← rangeEnd? g then return .other
  if closed then failHere "expected range upper bound"
  return .openRange

def rangeWithoutStart (g : Grammar) : Parser PatternShape := do
  let closed ← rangeLimits
  if ← rangeEnd? g then return .openRange
  if closed then failHere "expected range upper bound"
  return .rest

/-! ### Patterns with parts -/

def patternList (g : Grammar) : Parser Unit := do
  discard <| inGroup .paren (commaTerminated (alternatives g))

/-- The number of a member, of 32 bits; it is written in base ten. -/
def memberNumber (l : Literal) : Parser Unit := do
  match l.integerValue? with
  | some n =>
    if !l.integerSuffix.isEmpty then failPlain "expected unsuffixed integer"
    else if l.text.toList.head? = some '-' then failPlain "invalid digit found in string"
    else if n < 4294967296 then write (Token.ofLiteral ⟨.integer, toString n⟩)
    else failPlain "number too large to fit in target type"
  | none => failPlain "expected integer literal"

/-- A member: its name, or nothing for a number. -/
def member : Parser (Option String) := do
  if ← peek .name then return some (← name).2
  match frontLiteral (← get).rest with
  | some (.literal l, rest) =>
    if l.kind = .integer then
      moveTo rest
      memberNumber l
      return none
  | _ => pure ()
  failHere "expected identifier or integer"

def fieldPattern (g : Grammar) : Parser Unit := do
  let boxed ← word? "box"
  let byRef ← word? "ref"
  let mutable ← word? "mut"
  if boxed || byRef || mutable then discard name
  else
    let m ← member
    if m.isNone || (← peek (.op ":")) then
      op ":"
      discard <| alternatives g

def structPattern (g : Grammar) : Parser Unit :=
  inGroup .brace <| repeatStep do
    if ← atEnd then return false
    discard <| outerAttributes g
    if ← op? ".." then return false
    fieldPattern g
    if ← atEnd then return false
    op ","
    return true

def pathPattern (g : Grammar) : Parser PatternShape := do
  let (qualified, p) ← qualifiedPath g true
  if !qualified && (← peek (.op "!")) && !(← peek (.op "!=")) && p.isPlain then
    op "!"
    discard rawGroup
    return .other
  if ← peek (.group .brace) then
    structPattern g
    return .other
  if ← peek (.group .paren) then
    patternList g
    return .other
  if ← peek (.op "..") then rangeTail g else return .other

def namePattern (g : Grammar) : Parser Unit := do
  discard <| word? "ref"
  discard <| word? "mut"
  if !(← word? "self") then discard name
  if ← op? "@" then discard g.pattern

def literalPattern (g : Grammar) : Parser PatternShape := do
  discard <| rangeEnd? g
  if ← peek (.op "..") then rangeTail g else return .other

/-- One element of a slice pattern; an open range needs parentheses there. -/
def slicePatternElement (g : Grammar) : Parser Unit := do
  if (← alternatives g) = .openRange then
    failPlain "range pattern is not allowed unparenthesized inside slice pattern"

def pathPatternFollows : Parser Bool := do
  if ← peek .name then
    return (← peek2 (.op "::")) || (← peek2 (.op "!")) || (← peek2 (.group .brace))
      || (← peek2 (.group .paren)) || (← peek2 (.op ".."))
  if ← peek (.word "self") then peek2 (.op "::")
  else peekAny [.op "::", .op "<", .word "Self", .word "super", .word "crate"]

def readPattern (g : Grammar) : Parser PatternShape := do
  if ← pathPatternFollows then pathPattern g
  else if ← word? "_" then return .other
  else if ← peek (.word "box") then
    let start ← get
    word "box"
    discard g.pattern
    verbatimSince start
    return .verbatim
  else if ← peekAny [.op "-", .literal, .word "const"] then literalPattern g
  else if ← peekAny [.word "ref", .word "mut", .word "self", .name] then
    namePattern g
    return .other
  else if ← op? "&" then
    discard <| word? "mut"
    discard g.pattern
    return .other
  else if ← peek (.group .paren) then
    patternList g
    return .other
  else if ← peek (.group .bracket) then
    discard <| inGroup .bracket (commaTerminated (slicePatternElement g))
    return .other
  else if (← peek (.op "..")) && !(← peek (.op "...")) then rangeWithoutStart g
  else failExpected patternStarts

end SlotBinding.Grammar
