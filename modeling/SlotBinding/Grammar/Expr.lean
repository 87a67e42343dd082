import SlotBinding.Grammar.Bound
import SlotBinding.Grammar.Pattern

/-!
# Expressions

Operators are read by precedence climbing. The flag `allow` says whether a struct literal may start
an expression; it may not before the block of an `if`, `while`, `for` or `match`.
-/

namespace SlotBinding.Grammar

open Syntax Parser

/-! ### Operators and what follows an operand -/

/-- The binary operators, an operator before its own beginnings. -/
def binaryOperators : List (String × Precedence) :=
  [("+=", .assign), ("-=", .assign), ("*=", .assign), ("/=", .assign), ("%=", .assign),
   ("^=", .assign), ("&=", .assign), ("|=", .assign), ("<<=", .assign), (">>=", .assign),
   ("&&", .and), ("||", .or), ("<<", .shift), (">>", .shift), ("==", .compare), ("<=", .compare),
   ("!=", .compare), (">=", .compare), ("+", .sum), ("-", .sum), ("*", .product), ("/", .product),
   ("%", .product), ("^", .bitXor), ("&", .bitAnd), ("|", .bitOr), ("<", .compare), (">", .compare)]

def binaryOperator? : Parser (Option (String × Precedence)) := do
  let ts := (← get).rest
  return binaryOperators.find? fun o => (Expect.op o.1).holds ts

def assignFollows : Parser Bool := do
  return (← peek (.op "=")) && !(← peek (.op "=>"))

def nextPrecedence : Parser Precedence := do
  match ← binaryOperator? with
  | some o => return o.2
  | none =>
    if ← assignFollows then return .assign
    else if ← peek (.op "..") then return .range
    else if ← peek (.word "as") then return .cast
    else return .jump

/-- Takes operators into a right operand while they bind more tightly. -/
def rightOperandAtMost (g : Grammar) (allow : Bool) (p : Precedence) :
    Nat → ExprShape → Parser ExprShape
  | 0, e => return e
  | n + 1, e => do
    let next ← nextPrecedence
    if next.rank > p.rank || (next = p && p = .assign) then
      let before := (← get).rest.length
      let wider ← g.operators e allow next
      if (← get).rest.length = before then return wider
      rightOperandAtMost g allow p n wider
    else return e

def rightOperand (g : Grammar) (allow : Bool) (p : Precedence) : Parser ExprShape := do
  rightOperandAtMost g allow p ((← get).rest.length + 1) (← g.operand allow)

/-- The operators before which a range has no end. -/
def rangeEnders : List Expect :=
  [.op ",", .op ";", .op "?", .op "=>", .op "=", .op "+", .op "/", .op "%", .op "^", .op ">",
   .op "<=", .op "!=", .op "-=", .op "*=", .op "&=", .op "|=", .op "<<=", .word "as"]

/-- Whether a dot follows that is not the start of a range. -/
def dotFollows : Parser Bool := do
  return (← peek (.op ".")) && !(← peek (.op ".."))

def rangeFrom (g : Grammar) (allow : Bool) : Parser Unit := do
  let closed ← rangeLimits
  let ends := (← atEnd) || (← peekAny rangeEnders) || (← dotFollows)
    || (!allow && (← peek (.group .brace)))
  if closed || !ends then discard <| rightOperand g allow .range

/-- A cast must stand in parentheses before anything is applied to it. -/
def checkCast : Parser Unit := do
  let fault (what : String) : Parser Unit := failHere ("casts cannot be followed by " ++ what)
  if ← dotFollows then
    if ← peek2 (.word "await") then fault "`.await`"
    else if (← peek2 .name) && ((← peek3 (.group .paren)) || (← peek3 (.op "::"))) then
      fault "a method call"
    else fault "a field access"
  else if ← peek (.op "?") then fault "`?`"
  else if ← peek (.group .bracket) then fault "indexing"
  else if ← peek (.group .paren) then fault "a function call"

def isComparison : ExprShape → Bool
  | .binary c => c
  | _ => false

def operatorsAtMost (g : Grammar) (allow : Bool) (least : Precedence) :
    Nat → ExprShape → Parser ExprShape
  | 0, e => return e
  | n + 1, e => do
    if e = .range then return e
    match ← binaryOperator? with
    | some (o, p) =>
      if p.rank < least.rank then return e
      if p = .compare && isComparison e then failHere "comparison operators cannot be chained"
      op o
      discard <| rightOperand g allow p
      operatorsAtMost g allow least n (.binary (p = .compare))
    | none =>
      if least.rank ≤ Precedence.assign.rank && (← assignFollows) then
        op "="
        discard <| rightOperand g allow .assign
        operatorsAtMost g allow least n .assign
      else if least.rank ≤ Precedence.range.rank && (← peek (.op "..")) then
        rangeFrom g allow
        operatorsAtMost g allow least n .range
      else if ← word? "as" then
        discard <| g.type false
        checkCast
        operatorsAtMost g allow least n .cast
      else return e

/-- The operators behind an operand that bind at least so tightly. -/
def readOperators (g : Grammar) (e : ExprShape) (allow : Bool) (least : Precedence) :
    Parser ExprShape := do
  operatorsAtMost g allow least ((← get).rest.length + 1) e

def arguments (g : Grammar) : Parser Unit := do
  discard <| inGroup .paren (commaTerminated (g.expr true))

/-- Numbers of members with dots between them, which were read as one number; says whether a dot ends
them. -/
def memberChain (spelling : List Char) : Parser Bool := do
  let parts := spelling.splitBy (fun a b => a != '.' && b != '.')
  for part in parts do
    if part = ['.'] then write (Token.ofOperator ['.'])
    else memberNumber ⟨.integer, String.ofList part⟩
  return parts.getLast? = some ['.']

def afterDot (g : Grammar) : Parser ExprShape := do
  match frontLiteral (← get).rest with
  | some (.literal ⟨.float, spelling⟩, rest) =>
    moveTo rest
    if !(← memberChain spelling.toList) then return .field
  | _ => pure ()
  if ← word? "await" then return .await
  let m ← member
  let generic ← if m.isSome then op? "::" else pure false
  if generic then discard <| angleArguments g
  if m.isSome && (generic || (← peek (.group .paren))) then
    arguments g
    return .methodCall
  return .field

/-- Calls, fields, indices and question marks behind an operand, at most so many. -/
def trailersAtMost (g : Grammar) : Nat → ExprShape → Parser ExprShape
  | 0, e => return e
  | n + 1, e => do
    if ← peek (.group .paren) then
      arguments g
      trailersAtMost g n .call
    else if (← dotFollows) && e ≠ .range then
      op "."
      trailersAtMost g n (← afterDot g)
    else if ← peek (.group .bracket) then
      discard <| inGroup .bracket (g.expr true)
      trailersAtMost g n .index
    else if (← peek (.op "?")) && e ≠ .range then
      op "?"
      trailersAtMost g n .try
    else return e

def trailers (g : Grammar) (e : ExprShape) : Parser ExprShape := do
  trailersAtMost g ((← get).rest.length + 1) e

/-! ### Atoms -/

/-- Whether the word `for` at the front brings in parameters. -/
def binderFollows : Parser Bool := do
  if !(← peek (.word "for")) then return false
  let s ← get
  match parametersFollow.run { s with rest := s.rest.drop 1 } with
  | .ok (b, _) => return b
  | .error _ => return false

def exprFollows : Parser Bool := do
  return ((← peek .anyWord) && !(← peek (.word "as")))
    || (← peekAny [.group .paren, .group .bracket, .group .brace, .literal, .op "..", .op "::",
      .lifetime, .op "#"])
    || ((← peek (.op "!")) && !(← peek (.op "!=")))
    || ((← peek (.op "-")) && !(← peekAny [.op "-=", .op "->"]))
    || ((← peek (.op "*")) && !(← peek (.op "*=")))
    || ((← peek (.op "|")) && !(← peek (.op "|=")))
    || ((← peek (.op "&")) && !(← peek (.op "&=")))
    || ((← peek (.op "<")) && !(← peekAny [.op "<=", .op "<<="]))

/-- An argument of a closure. The attributes of a verbatim pattern without a type are not written. -/
def closureArgument (g : Grammar) : Parser Unit := do
  let (_, attributes) ← silently (outerAttributes g)
  let (shape, pattern) ← silently g.pattern
  let typed ← peek (.op ":")
  write ((if shape = .verbatim && !typed then [] else attributes) ++ pattern)
  if typed then
    op ":"
    discard <| g.type true

def closure (g : Grammar) (allow : Bool) : Parser Unit := do
  discard <| binder? g
  discard <| word? "const"
  discard <| word? "static"
  discard <| word? "async"
  discard <| word? "move"
  op "|"
  repeatStep do
    if ← peek (.op "|") then return false
    closureArgument g
    if ← peek (.op "|") then return false
    op ","
    return true
  op "|"
  if ← op? "->" then
    discard <| g.type true
    block g
  else discard <| g.expr allow

def fieldValue (g : Grammar) : Parser Unit := do
  discard <| outerAttributes g
  let m ← member
  if m.isNone || (← peek (.op ":")) then
    op ":"
    discard <| g.expr true

def structLiteral (g : Grammar) : Parser Unit :=
  inGroup .brace <| repeatStep do
    if ← atEnd then return false
    if ← op? ".." then
      if !(← atEnd) then discard <| g.expr true
      return false
    fieldValue g
    if ← atEnd then return false
    op ","
    return true

def pathExpr (g : Grammar) (allow : Bool) : Parser ExprShape := do
  let (qualified, p) ← qualifiedPath g true
  if !qualified && (← peek (.op "!")) && !(← peek (.op "!=")) && p.isPlain then
    op "!"
    return .invocation (← rawGroup).1
  if allow && (← peek (.group .brace)) then
    structLiteral g
    return .struct
  return .path

def parenExpr (g : Grammar) : Parser ExprShape :=
  inGroup .paren do
    if ← atEnd then return .tuple
    discard <| g.expr true
    if ← atEnd then return .paren
    op ","
    discard <| commaTerminated (g.expr true)
    return .tuple

def bracketExpr (g : Grammar) : Parser ExprShape :=
  inGroup .bracket do
    if ← atEnd then return .array
    discard <| g.expr true
    if ← atEnd then return .array
    if ← op? "," then
      discard <| commaTerminated (g.expr true)
      return .array
    if ← op? ";" then
      discard <| g.expr true
      return .repeat
    failHere "expected `,` or `;`"

/-- Whether a label stands behind the attributes at the front. -/
def labelFollowsAttributes (g : Grammar) : Parser Bool := do
  match ← lookAhead? (outerAttributes g) with
  | some (_, t) => return Expect.lifetime.holds t.rest
  | none => return false

/-- An exit from a loop or a block; a value that starts with a label is put in parentheses. -/
def breakExpr (g : Grammar) (allow : Bool) : Parser Unit := do
  word "break"
  if (← peek .lifetime) && (← peek2 (.op ":")) then
    discard <| g.expr true
    failPlain "parentheses required"
  let labeled ← lifetime?
  if (← exprFollows) && (allow || !(← peek (.group .brace))) then
    let wrapped := !labeled && (← labelFollowsAttributes g)
    let (_, value) ← silently (g.expr true)
    write (if wrapped then [.ofGroup .paren value] else value)

def letExpr (g : Grammar) (allow : Bool) : Parser Unit := do
  word "let"
  discard <| alternatives g
  op "="
  discard <| g.operators (← g.operand allow) allow .compare

def ifExpr (g : Grammar) : Parser Unit :=
  repeatStep do
    word "if"
    discard <| g.expr false
    block g
    if !(← word? "else") then return false
    if ← peek (.word "if") then return true
    if ← peek (.group .brace) then
      block g
      return false
    failExpected [.word "if", .group .brace]

def whileExpr (g : Grammar) : Parser Unit := do
  word "while"
  discard <| g.expr false
  discard <| attributedBlock g

def forExpr (g : Grammar) : Parser Unit := do
  word "for"
  discard <| alternatives g
  word "in"
  discard <| g.expr false
  discard <| attributedBlock g

def loopExpr (g : Grammar) : Parser Unit := do
  word "loop"
  discard <| attributedBlock g

/-- Expressions that end with a block and stand as statements without a semicolon. -/
def isBlockLike : ExprShape → Bool
  | .if | .match | .block | .unsafeBlock | .while | .loop | .forLoop | .tryBlock | .const => true
  | _ => false

def arm (g : Grammar) : Parser Unit := do
  discard <| outerAttributes g
  discard <| alternatives g
  if ← word? "if" then discard <| g.expr true
  op "=>"
  let body ← g.statementExpr false
  if isBlockLike body || (← atEnd) then discard <| op? "," else op ","

def matchExpr (g : Grammar) : Parser Unit := do
  word "match"
  discard <| g.expr false
  inGroup .brace do
    discard <| innerAttributes g
    discard <| untilEnd (arm g)

def labeledExpr (g : Grammar) : Parser ExprShape := do
  lifetime
  op ":"
  if ← peek (.word "while") then
    whileExpr g
    return .while
  else if ← peek (.word "for") then
    forExpr g
    return .forLoop
  else if ← peek (.word "loop") then
    loopExpr g
    return .loop
  else if ← peek (.group .brace) then
    discard <| attributedBlock g
    return .block
  else failHere "expected loop or block expression"

def closureFollows : Parser Bool := do
  return (← peekAny [.op "|", .word "move", .word "static"]) || (← binderFollows)
    || ((← peek (.word "const")) && !(← peek2 (.group .brace)))
    || ((← peek (.word "async")) && ((← peek2 (.op "|")) || (← peek2 (.word "move"))))

/-- Whether a block that runs later starts here. -/
def asyncBlockFollows : Parser Bool := do
  return (← peek (.word "async"))
    && ((← peek2 (.group .brace)) || ((← peek2 (.word "move")) && (← peek3 (.group .brace))))

def keywordExpr? (g : Grammar) (allow : Bool) : Parser (Option ExprShape) := do
  if ← peek (.word "break") then
    breakExpr g allow
    return some .break
  else if ← word? "continue" then
    discard lifetime?
    return some .continue
  else if ← word? "return" then
    if ← exprFollows then discard <| g.expr true
    return some .return
  else if ← word? "become" then
    discard <| g.expr true
    return some .verbatim
  else if ← peek (.word "let") then
    letExpr g allow
    return some .let
  else if ← peek (.word "if") then
    ifExpr g
    return some .if
  else if ← peek (.word "while") then
    whileExpr g
    return some .while
  else if ← peek (.word "for") then
    forExpr g
    return some .forLoop
  else if ← peek (.word "loop") then
    loopExpr g
    return some .loop
  else if ← peek (.word "match") then
    matchExpr g
    return some .match
  else if ← word? "yield" then
    if ← exprFollows then discard <| g.expr true
    return some .yield
  else if ← word? "unsafe" then
    discard <| attributedBlock g
    return some .unsafeBlock
  else if ← peek (.word "const") then
    constBlock g
    return some .const
  else return none

def pathExprFollows : Parser Bool := do
  return (← peekAny [.name, .op "::", .op "<", .word "self", .word "Self", .word "super",
      .word "crate"])
    || ((← peek (.word "try")) && ((← peek2 (.op "!")) || (← peek2 (.op "::"))))

/-- An operand without prefix operators and without anything behind it. -/
def atom (g : Grammar) (allow : Bool) : Parser ExprShape := do
  if ← peek .literal then return .literal (← literal)
  else if ← asyncBlockFollows then
    word "async"
    discard <| word? "move"
    block g
    return .async
  else if (← peek (.word "try")) && (← peek2 (.group .brace)) then
    word "try"
    block g
    return .tryBlock
  else if ← closureFollows then
    closure g allow
    return .closure
  else if ← builtinFollows then
    builtinForm
    return .verbatim
  else if ← pathExprFollows then pathExpr g allow
  else if ← peek (.group .paren) then parenExpr g
  else if ← peek (.group .bracket) then bracketExpr g
  else
    match ← keywordExpr? g allow with
    | some e => return e
    | none =>
      if ← peek (.group .brace) then
        discard <| attributedBlock g
        return .block
      else if ← peek (.op "..") then
        rangeFrom g allow
        return .range
      else if ← word? "_" then return .infer
      else if ← peek .lifetime then labeledExpr g
      else failHere "expected an expression"

/-! ### Operands and expressions -/

def atomWithTrailers (g : Grammar) (start : Input) (attributed allow : Bool) :
    Parser ExprShape := do
  let e ← trailers g (← atom g allow)
  if e = .verbatim then verbatimSince start
  else if attributed && e = .range then
    failPlain "attributes are not allowed on range expressions starting with `..`"
  return e

def referenceExpr (g : Grammar) (allow : Bool) : Parser ExprShape := do
  op "&"
  let raw := (← peek (.word "raw")) && ((← peek2 (.word "mut")) || (← peek2 (.word "const")))
  if raw then word "raw"
  let mutable ← word? "mut"
  if raw && !mutable then word "const"
  discard <| g.operand allow
  return if raw then .rawAddress else .reference

def readOperand (g : Grammar) (allow : Bool) : Parser ExprShape := do
  let start ← get
  let attributed := !(← outerAttributes g).isEmpty
  if ← peek (.op "&") then referenceExpr g allow
  else if ← op? "*" then return .unary '*' (← g.operand allow)
  else if ← op? "!" then return .unary '!' (← g.operand allow)
  else if ← op? "-" then return .unary '-' (← g.operand allow)
  else atomWithTrailers g start attributed allow

def readExpr (g : Grammar) (allow : Bool) : Parser ExprShape := do
  readOperators g (← readOperand g allow) allow .jump

def blockLike? (g : Grammar) : Parser (Option ExprShape) := do
  let blockWord ← peekAny [.word "if", .word "while", .word "loop", .word "match", .word "unsafe"]
  let forLoop := (← peek (.word "for")) && !(← binderFollows)
  let constBlock := (← peek (.word "const")) && (← peek2 (.group .brace))
  if blockWord || forLoop || constBlock then keywordExpr? g true
  else if (← peek (.word "try")) && (← peek2 (.group .brace)) then
    word "try"
    block g
    return some .tryBlock
  else if ← peek (.group .brace) then
    discard <| attributedBlock g
    return some .block
  else if ← peek .lifetime then return some (← labeledExpr g)
  else return none

/-- An expression that ends with its block where it starts with one, and its first operand. -/
def blockBoundedExpr (g : Grammar) : Parser (ExprShape × ExprShape) := do
  let withOperators (first : ExprShape) : Parser (ExprShape × ExprShape) :=
    return (← readOperators g first true .jump, first)
  match ← blockLike? g with
  | some e =>
    if (← dotFollows) || (← peek (.op "?")) then withOperators (← trailers g e) else return (e, e)
  | none => withOperators (← readOperand g true)

/-- An expression that ends with its block where it starts with one. Attributes in front belong to
its first operand; those of a statement that is a range belong to the range. A range with attributes
is put in parentheses, and a verbatim operand has none. -/
def readStatementExpr (g : Grammar) (statement : Bool) : Parser ExprShape := do
  let (_, attributes) ← silently (outerAttributes g)
  let ((e, first), tokens) ← silently (blockBoundedExpr g)
  let owner := if statement && e = .range then e else first
  if owner ≠ .verbatim then write attributes
  write (if owner = .range && !attributes.isEmpty then [.ofGroup .paren tokens] else tokens)
  return e

end SlotBinding.Grammar
