import SlotBinding.Syntax.Item
import SlotBinding.Syntax.Parser

/-!
# The shape of the grammar

The readers of types, expressions, patterns, statements and items call each other. Each is written
against a `Grammar`, a record of the readers it may call, and the knot is tied in one place by
recursion on a bound for the nesting.
-/

namespace SlotBinding

namespace Grammar

open Syntax

/-- What of a type the grammar looks at again. -/
inductive BoundShape
  | trait
  | lifetime
  | capture
  | other
  deriving Repr, DecidableEq

inductive TypeShape
  /-- A path; `plain` says that it is one unqualified word, perhaps with arguments. -/
  | path (qualified plain : Bool)
  | paren
  /-- Bounds without `dyn`. -/
  | bareBounds (bounds : List BoundShape) (trailing : Bool)
  | other
  deriving Repr, DecidableEq, Inhabited

inductive ArgumentShape
  | none
  | empty
  | some
  deriving Repr, DecidableEq, Inhabited

structure PathShape where
  rooted : Bool
  segments : List (String × ArgumentShape)
  deriving Repr, DecidableEq, Inhabited

def PathShape.isPlain (p : PathShape) : Bool := p.segments.all fun s => s.2 = .none

def PathShape.lastArguments (p : PathShape) : ArgumentShape :=
  (p.segments.getLast?.map (·.2)).getD .none

/-- What of an expression the grammar and its users look at again. -/
inductive ExprShape
  | array
  | assign
  | async
  | await
  | binary (comparison : Bool)
  | block
  | break
  | call
  | cast
  | closure
  | const
  | continue
  | field
  | forLoop
  | if
  | index
  | infer
  | let
  | literal (value : LiteralValue)
  | loop
  | invocation (delimiter : Delimiter)
  | match
  | methodCall
  | paren
  | path
  | range
  | rawAddress
  | reference
  | repeat
  | return
  | struct
  | try
  | tryBlock
  | tuple
  | unary (operator : Char) (operand : ExprShape)
  | unsafeBlock
  | verbatim
  | while
  | yield
  deriving Repr, DecidableEq, Inhabited

inductive PatternShape
  | rest
  /-- A range without one of its ends. -/
  | openRange
  /-- A pattern that is taken as it is written in the source. -/
  | verbatim
  | other
  deriving Repr, DecidableEq, Inhabited

/-- How tightly operators bind, loosest first. -/
inductive Precedence
  | jump
  | assign
  | range
  | or
  | and
  | let
  | compare
  | bitOr
  | bitXor
  | bitAnd
  | shift
  | sum
  | product
  | cast
  deriving Repr, DecidableEq, Inhabited

def Precedence.rank : Precedence → Nat
  | jump => 0
  | assign => 1
  | range => 2
  | or => 3
  | and => 4
  | «let» => 5
  | compare => 6
  | bitOr => 7
  | bitXor => 8
  | bitAnd => 9
  | shift => 10
  | sum => 11
  | product => 12
  | cast => 13

end Grammar

namespace Syntax

open Grammar

/-- The readers that may be called again further in. -/
structure Grammar where
  /-- A type; the flag allows several bounds joined by `+`. -/
  type : Bool → Parser TypeShape
  /-- A bound; the flags allow captured parameters and constant traits. -/
  bound : Bool → Bool → Parser BoundShape
  /-- An expression; the flag allows a struct literal at its front. -/
  expr : Bool → Parser ExprShape
  /-- An operand with its prefix operators. -/
  operand : Bool → Parser ExprShape
  /-- The operators behind an operand that bind at least as tightly as the precedence. -/
  operators : ExprShape → Bool → Precedence → Parser ExprShape
  /-- An expression that may end where a statement ends; the flag says whether it is a statement. -/
  statementExpr : Bool → Parser ExprShape
  pattern : Parser PatternShape
  statements : Parser Unit
  item : Parser Item
  /-- The fields between braces. -/
  fields : Parser (List FieldDecl)
  /-- The tree of an import; says whether it has a structure. -/
  useTree : Bool → Parser Bool

/-- The grammar of which nothing may be read any more. -/
def Grammar.closed : Grammar where
  type _ := throw .tooDeep
  bound _ _ := throw .tooDeep
  expr _ := throw .tooDeep
  operand _ := throw .tooDeep
  operators _ _ _ := throw .tooDeep
  statementExpr _ := throw .tooDeep
  pattern := throw .tooDeep
  statements := throw .tooDeep
  item := throw .tooDeep
  fields := throw .tooDeep
  useTree _ := throw .tooDeep

end Syntax

namespace Grammar

-- Readers are functions of a grammar, so that its name stands beside theirs.
set_option linter.all false in
export Syntax (Grammar)

end Grammar

end SlotBinding
