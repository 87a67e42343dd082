/-!
# Tokens

Source text as a list of token trees: words, punctuation characters, literals and delimited groups.
-/

namespace SlotBinding

/-- Where a token starts: lines count from one, columns from zero. The line zero means that the
place is not known. -/
structure Position where
  line : Nat
  column : Nat
  deriving Repr, DecidableEq, Inhabited

namespace Position

/-- The place of a token that was not read from a source. -/
def unknown : Position := ⟨0, 0⟩

end Position

inductive Delimiter
  | paren
  | bracket
  | brace
  deriving Repr, DecidableEq, Inhabited

/-- Whether a punctuation character sticks to the next token. -/
inductive Spacing
  | alone
  | joint
  deriving Repr, DecidableEq, Inhabited

inductive LiteralKind
  | string
  | byteString
  | nulString
  | byte
  | character
  | integer
  | float
  | other
  deriving Repr, DecidableEq, Inhabited

structure Literal where
  kind : LiteralKind
  text : String
  deriving Repr, DecidableEq, Inhabited

/-- A token tree. -/
inductive Token
  | word (start : Position) (text : String)
  | punct (start : Position) (char : Char) (spacing : Spacing)
  | literal (start : Position) (value : Literal)
  | group (start : Position) (delimiter : Delimiter) (inner : List Token)
  deriving Repr, Inhabited

namespace Token

def start : Token → Position
  | word p _ | punct p _ _ | literal p _ | group p _ _ => p

def size : Token → Nat
  | group _ _ inner => sizeAll inner + 1
  | _ => 1
where
  /-- The number of tokens in a list of trees. -/
  sizeAll : List Token → Nat
    | [] => 0
    | t :: rest => size t + sizeAll rest

def ofWord (text : String) : Token := word .unknown text

/-- The characters of one operator; all but the last stick to the next one. -/
def ofOperator : List Char → List Token
  | [] => []
  | [c] => [punct .unknown c .alone]
  | c :: rest => punct .unknown c .joint :: ofOperator rest

def ofGroup (d : Delimiter) (inner : List Token) : Token := group .unknown d inner

/-- A literal made by the program; the sign of a number is a token of its own. -/
def ofLiteral (l : Literal) : List Token :=
  match l.text.toList with
  | '-' :: rest => [punct .unknown '-' .alone, literal .unknown { l with text := String.ofList rest }]
  | _ => [literal .unknown l]

end Token

end SlotBinding
