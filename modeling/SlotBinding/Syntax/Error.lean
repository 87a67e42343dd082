import SlotBinding.Token.Basic

/-!
# Why a text is not in the grammar
-/

namespace SlotBinding.Syntax

/-- The first fault of a text. -/
inductive SyntaxError
  /-- The text has a broken token or an open group. -/
  | unreadable
  /-- None of these was found; the flag says whether the input had ended. -/
  | expected (atEnd : Bool) (what : List String)
  /-- A keyword stands where a name is needed. -/
  | keyword (word : String)
  /-- Tokens are left over in a group, or behind everything. -/
  | leftover (closing : Option Delimiter)
  /-- Any other fault. -/
  | invalid (atEnd : Bool) (text : String)
  /-- The nesting is deeper than was allowed for. -/
  | tooDeep
  deriving Repr, DecidableEq

namespace SyntaxError

def endNote (atEnd : Bool) : String := if atEnd then "unexpected end of input, " else ""

/-- The closing delimiter that was expected instead of a left over token. -/
def closingNote : Option Delimiter → String
  | some .paren => ", expected `)`"
  | some .bracket => ", expected `]`"
  | some .brace => ", expected `\x7d`"
  | none => ""

def message : SyntaxError → String
  | unreadable => "cannot parse string into token stream"
  | expected true [] => "unexpected end of input"
  | expected false [] => "unexpected token"
  | expected atEnd [a] => endNote atEnd ++ "expected " ++ a
  | expected atEnd [a, b] => endNote atEnd ++ "expected " ++ a ++ " or " ++ b
  | expected atEnd what => endNote atEnd ++ "expected one of: " ++ ", ".intercalate what
  | keyword word => "expected identifier, found keyword `" ++ word ++ "`"
  | leftover closing => "unexpected token" ++ closingNote closing
  | invalid atEnd text => endNote atEnd ++ text
  | tooDeep => "nesting too deep"

end SyntaxError

end SlotBinding.Syntax
