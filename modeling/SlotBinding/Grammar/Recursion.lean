import SlotBinding.Grammar.Item
import SlotBinding.Token.Lexer

/-!
# The grammar

`Grammar.ofDepth` ties the readers together for a bounded nesting; `Grammar.forTokens` is deep enough
for the given tokens, since every reader that calls another one takes a token or is one of a fixed
number of readers between two tokens.
-/

namespace SlotBinding

namespace Syntax.Grammar

open SlotBinding.Grammar

/-- The grammar in which readers call each other at most so deeply. -/
def ofDepth : Nat → Grammar
  | 0 => closed
  | n + 1 =>
    { type := fun plus s => readType (ofDepth n) plus s
      bound := fun capture const s => readBound (ofDepth n) capture const s
      expr := fun allow s => readExpr (ofDepth n) allow s
      operand := fun allow s => readOperand (ofDepth n) allow s
      operators := fun e allow least s => readOperators (ofDepth n) e allow least s
      statementExpr := fun statement s => readStatementExpr (ofDepth n) statement s
      pattern := fun s => readPattern (ofDepth n) s
      statements := fun s => readStatements (ofDepth n) s
      item := fun s => readItem (ofDepth n) s
      fields := fun s => readFields (ofDepth n) s
      useTree := fun allowRoot s => readUseTree (ofDepth n) allowRoot s }

def forTokens (ts : List Token) : Grammar := ofDepth (8 * Token.size.sizeAll ts + 16)

end Syntax.Grammar

namespace Grammar

open Syntax

/-- Reads all of the tokens with a reader of the grammar; gives its result and the canonical
tokens. -/
def readAll (p : Grammar → Parser α) (ts : List Token) : Except SyntaxError (α × List Token) :=
  (p (.forTokens ts)).runAll ts

def readText (p : Grammar → Parser α) (text : String) : Except SyntaxError (α × List Token) :=
  match Token.ofString? text with
  | some ts => readAll p ts
  | none => .error .unreadable

end Grammar

end SlotBinding
