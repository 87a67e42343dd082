import SlotBinding.Grammar.Expr

/-!
# Statements
-/

namespace SlotBinding.Grammar

open Syntax Parser

/-- Whether the last thing written is a group in braces. -/
def endsWithBrace : Parser Bool := do
  match (← get).written with
  | .group _ .brace _ :: _ => return true
  | _ => return false

def letStatement (g : Grammar) : Parser Unit := do
  word "let"
  discard g.pattern
  if ← op? ":" then discard <| g.type true
  if ← op? "=" then
    discard <| g.expr true
    let mayDiverge := !(← endsWithBrace)
    if mayDiverge && (← peek (.word "else")) then
      word "else"
      block g
  op ";"

/-- How an invocation at the front is meant. -/
inductive Invocation
  | none
  | item
  /-- A statement, with the input behind the path. -/
  | statement (behindPath : Input)

/-- An invocation with a name declares an item; one with braces is a statement, unless it is an
operand. -/
def invocationAhead : Parser Invocation := do
  match ← lookAhead? modPath with
  | none => return .none
  | some (_, t) =>
    if !(Expect.op "!").holds t.rest then return .none
    let second := skipTree t.rest
    let third := skipTree second
    if Expect.name.holds second || (Expect.word "try").holds second then return .item
    let operand := ((Expect.op ".").holds third && !(Expect.op "..").holds third)
      || (Expect.op "?").holds third
    if (Expect.group .brace).holds second && !operand then return .statement t
    return .none

def itemFollows : Parser Bool := do
  if ← peekAny [.word "pub", .word "extern", .word "use", .word "fn", .word "mod", .word "type",
      .word "struct", .word "enum", .word "trait", .word "impl", .word "macro"] then return true
  if ← peek (.word "crate") then return !(← peek2 (.op "::"))
  if ← peek (.word "static") then
    let later := (← peek2 (.word "async")) && ((← peek3 (.word "move")) || (← peek3 (.op "|")))
    return (← peek2 (.word "mut")) || ((← peek2 .name) && !later)
  if ← peek (.word "const") then
    let function := (← peek3 (.word "unsafe")) || (← peek3 (.word "extern")) || (← peek3 (.word "fn"))
    let operand := (← peek2 (.group .brace)) || (← peek2 (.word "static"))
      || ((← peek2 (.word "async")) && !function) || (← peek2 (.word "move")) || (← peek2 (.op "|"))
    return !operand
  if ← peek (.word "unsafe") then return !(← peek2 (.group .brace))
  if ← peek (.word "async") then
    return (← peek2 (.word "unsafe")) || (← peek2 (.word "extern")) || (← peek2 (.word "fn"))
  if ← peek (.word "union") then peek2 .name
  else if ← peek (.word "auto") then peek2 (.word "trait")
  else if ← peek (.word "default") then
    return (← peek2 (.word "unsafe")) || (← peek2 (.word "impl"))
  else return false

/-- Whether an expression needs a semicolon to be a statement before others. -/
def needsSemicolon : ExprShape → Bool
  | .invocation d => d ≠ .brace
  | e => !isBlockLike e

/-- One statement; says whether it lacks a semicolon that it needs before others. -/
def statement (g : Grammar) : Parser Bool := do
  let start ← get
  discard <| outerAttributes g
  let invocation ← invocationAhead
  match invocation with
  | .statement t =>
    advanceTo t
    op "!"
    discard rawGroup
    discard <| op? ";"
    return false
  | _ => pure ()
  let declared := match invocation with
    | .item => true
    | _ => false
  if ← peek (.word "let") then
    letStatement g
    return false
  else if declared || (← itemFollows) then
    set start
    discard g.item
    return false
  else
    set start
    let e ← g.statementExpr true
    if ← op? ";" then return false
    return needsSemicolon e

def readStatements (g : Grammar) : Parser Unit :=
  repeatStep do
    repeatStep (op? ";")
    if ← atEnd then return false
    let lacking ← statement g
    if ← atEnd then return false
    if lacking then failHere "unexpected token, expected `;`"
    return true

end SlotBinding.Grammar
