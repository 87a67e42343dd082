import SlotBinding.Syntax.Error
import SlotBinding.Token.Number

/-!
# Readers of token trees

A `Parser` reads tokens from the front of its input and writes the canonical form of what it reads:
every operator and word as a token of its own, without the spacing of the source. `inGroup` reads the
inside of a group; tokens it leaves there are noted once and reported at the end.
-/

namespace SlotBinding.Syntax

/-- The state of a reader. -/
structure Input where
  /-- The tokens still to be read. -/
  rest : List Token
  /-- The canonical form of what was read, newest first. -/
  written : List Token := []
  /-- The delimiter of the first group that was left with unread tokens. -/
  stray : Option Delimiter := none

abbrev Parser := StateT Input (Except SyntaxError)

/-! ### What stands at the front -/

def keywords : List String :=
  ["_", "abstract", "as", "async", "await", "become", "box", "break", "const", "continue", "crate",
   "do", "dyn", "else", "enum", "extern", "false", "final", "fn", "for", "if", "impl", "in", "let",
   "loop", "macro", "match", "mod", "move", "mut", "override", "priv", "pub", "ref", "return",
   "Self", "self", "static", "struct", "super", "trait", "true", "try", "type", "typeof", "unsafe",
   "unsized", "use", "virtual", "where", "while", "yield"]

def isName (word : String) : Bool := !keywords.contains word

/-- What can be asked of the front of the input. -/
inductive Expect
  | op (text : String)
  | word (text : String)
  | name
  | anyWord
  | lifetime
  | literal
  | integer
  | string
  | group (d : Delimiter)
  deriving DecidableEq

/-- The tokens behind an operator, where it stands at the front. -/
def afterOperator : List Char → List Token → Option (List Token)
  | [], _ => none
  | [c], .punct _ d _ :: rest => if c == d && d != '\'' then some rest else none
  | c :: more, .punct _ d .joint :: rest =>
    if c == d && d != '\'' then afterOperator more rest else none
  | _, _ => none

/-- A literal with its sign, or a truth value. -/
inductive LiteralValue
  | literal (value : Literal)
  | truth (value : Bool)
  deriving Repr, DecidableEq, Inhabited

namespace LiteralValue

def tokens : LiteralValue → List Token
  | literal l => Token.ofLiteral l
  | truth b => [.ofWord (if b then "true" else "false")]

end LiteralValue

/-- The literal at the front and the tokens behind it; a minus sign belongs to a number. -/
def frontLiteral : List Token → Option (LiteralValue × List Token)
  | .literal _ l :: rest => some (.literal l, rest)
  | .word _ w :: rest =>
    if w == "true" then some (.truth true, rest)
    else if w == "false" then some (.truth false, rest)
    else none
  | .punct _ '-' _ :: .literal _ l :: rest =>
    if l.kind = .integer || l.kind = .float then
      some (.literal { l with text := "-" ++ l.text }, rest)
    else none
  | _ => none

namespace Expect

def holds : Expect → List Token → Bool
  | op s, ts => (afterOperator s.toList ts).isSome
  | word s, .word _ w :: _ => w == s
  | name, .word _ w :: _ => isName w
  | anyWord, .word _ _ :: _ => true
  | lifetime, .punct _ '\'' .joint :: .word _ _ :: _ => true
  | literal, ts => (frontLiteral ts).isSome
  | integer, ts =>
    match frontLiteral ts with
    | some (.literal l, _) => l.kind = .integer
    | _ => false
  | string, ts =>
    match frontLiteral ts with
    | some (.literal l, _) => l.kind = .string
    | _ => false
  | group d, .group _ e _ :: _ => d = e
  | _, _ => false

def label : Expect → String
  | op s | word s => "`" ++ s ++ "`"
  | name => "identifier"
  | anyWord => "identifier"
  | lifetime => "lifetime"
  | literal => "literal"
  | integer => "integer literal"
  | string => "string literal"
  | group .paren => "parentheses"
  | group .bracket => "square brackets"
  | group .brace => "curly braces"

end Expect

/-- The tokens behind the first tree; a lifetime counts as one tree. -/
def skipTree : List Token → List Token
  | .punct _ '\'' .joint :: .word _ _ :: rest => rest
  | _ :: rest => rest
  | [] => []

namespace Parser

def peek (e : Expect) : Parser Bool := do return e.holds (← get).rest

def peek2 (e : Expect) : Parser Bool := do return e.holds (skipTree (← get).rest)

def peek3 (e : Expect) : Parser Bool := do return e.holds (skipTree (skipTree (← get).rest))

def peekAny (es : List Expect) : Parser Bool := do return es.any (·.holds (← get).rest)

def atEnd : Parser Bool := do return (← get).rest.isEmpty

def here : Parser Position := do return ((← get).rest.head?.map Token.start).getD .unknown

/-- The result of a reader and the input behind it, without moving; nothing where it fails. -/
def lookAhead? (p : Parser α) : Parser (Option (α × Input)) := do
  match p.run { (← get) with stray := none } with
  | .ok r => return some r
  | .error _ => return none

def behind (p : Parser α) : Parser (α × List Token) := do
  let s ← get
  let (a, t) ← (p.run { s with stray := none } : Except SyntaxError _)
  return (a, t.rest)

/-- Goes on from where a look ahead ended. -/
def advanceTo (t : Input) : Parser Unit :=
  modify fun s => { t with stray := s.stray <|> t.stray }

def failHere (text : String) : Parser α := do throw (.invalid (← atEnd) text)

/-- A fault that does not say whether the input had ended. -/
def failPlain (text : String) : Parser α := throw (.invalid false text)

/-- None of the expected things stands in front of the tokens; those that do are not named. -/
def failExpectedAt (ts : List Token) (es : List Expect) : Parser α :=
  throw (.expected ts.isEmpty ((es.filter fun e => !e.holds ts).map Expect.label))

/-- None of the expected things stands at the front; those that do are not named. -/
def failExpected (es : List Expect) : Parser α := do failExpectedAt (← get).rest es

/-! ### Reading tokens -/

def write (ts : List Token) : Parser Unit :=
  modify fun s => { s with written := ts.reverse ++ s.written }

def moveTo (rest : List Token) : Parser Unit := modify fun s => { s with rest := rest }

def op (s : String) : Parser Unit := do
  match afterOperator s.toList (← get).rest with
  | some rest => moveTo rest; write (Token.ofOperator s.toList)
  | none => throw (.expected false ["`" ++ s ++ "`"])

def op? (s : String) : Parser Bool := do
  if ← peek (.op s) then op s; return true else return false

def word (s : String) : Parser Unit := do
  if ← peek (.word s) then
    moveTo ((← get).rest.drop 1)
    write [.ofWord s]
  else
    throw (.expected (← atEnd) ["`" ++ s ++ "`"])

def word? (s : String) : Parser Bool := do
  if ← peek (.word s) then word s; return true else return false

def anyWord : Parser (Position × String) := do
  match (← get).rest with
  | .word p w :: rest => moveTo rest; write [.ofWord w]; return (p, w)
  | _ => failHere "expected ident"

def name : Parser (Position × String) := do
  match (← get).rest with
  | .word _ w :: _ => if isName w then anyWord else throw (.keyword w)
  | _ => failHere "expected identifier"

def lifetime : Parser Unit := do
  match (← get).rest with
  | .punct _ '\'' .joint :: .word _ w :: rest =>
    moveTo rest
    write [.punct .unknown '\'' .joint, .ofWord w]
  | _ => failHere "expected lifetime"

def lifetime? : Parser Bool := do
  if ← peek .lifetime then lifetime; return true else return false

def literal : Parser LiteralValue := do
  match frontLiteral (← get).rest with
  | some (l, rest) => moveTo rest; write l.tokens; return l
  | none => failHere "expected literal"

def groupLabel (d : Delimiter) : String := (Expect.group d).label

/-- What a reader reads and writes, with the writing kept apart. -/
def captured (p : Parser α) : Parser (α × List Token) := do
  let outer := (← get).written
  modify fun s => { s with written := [] }
  let a ← p
  let own := (← get).written
  modify fun s => { s with written := own ++ outer }
  return (a, own.reverse)

/-- Reads without writing and gives what would have been written. -/
def silently (p : Parser α) : Parser (α × List Token) := do
  let outer := (← get).written
  modify fun s => { s with written := [] }
  let a ← p
  let own := (← get).written
  modify fun s => { s with written := outer }
  return (a, own.reverse)

/-- Reads the inside of a group and notes whether tokens are left in it. -/
def inGroup (d : Delimiter) (p : Parser α) : Parser α := do
  let s ← get
  match s.rest with
  | .group _ e inner :: rest =>
    if e = d then
      set { s with rest := inner, written := [] }
      let a ← p
      let t ← get
      set { rest := rest
            written := .ofGroup d t.written.reverse :: s.written
            stray := t.stray <|> (if t.rest.isEmpty then none else some d) : Input }
      return a
    else throw (.expected false [groupLabel d])
  | rest => throw (.expected rest.isEmpty [groupLabel d])

def rawGroup : Parser (Delimiter × List Token) := do
  match (← get).rest with
  | .group _ d inner :: rest => moveTo rest; write [.ofGroup d inner]; return (d, inner)
  | _ => failHere "expected delimiter"

def rawRest : Parser (List Token) := do
  let ts := (← get).rest
  moveTo []
  write ts
  return ts

/-- Writes what was read since an earlier point as it stands in the source. -/
def verbatimSince (start : Input) : Parser Unit :=
  modify fun s =>
    { s with written := (start.rest.take (start.rest.length - s.rest.length)).reverse ++ start.written }

/-- Repeats a step at most so many times while it says to go on. -/
def repeatAtMost (step : Parser Bool) : Nat → Parser Unit
  | 0 => pure ()
  | n + 1 => do if ← step then repeatAtMost step n

/-- Repeats a step, which reads at least one token, while it says to go on. -/
def repeatStep (step : Parser Bool) : Parser Unit := do
  repeatAtMost step ((← get).rest.length + 1)

/-- Collects what a step gives until it gives nothing, at most so many times. -/
def collectAtMost (step : Parser (Option α)) : Nat → Parser (List α)
  | 0 => return []
  | n + 1 => do
    match ← step with
    | some a => return a :: (← collectAtMost step n)
    | none => return []

def collect (step : Parser (Option α)) : Parser (List α) := do
  collectAtMost step ((← get).rest.length + 1)

def untilEnd (p : Parser α) : Parser (List α) :=
  collect do if ← atEnd then return none else return some (← p)

/-- Items up to the end of the input, each but the last followed by a comma. -/
def commaTerminated (p : Parser α) : Parser (List α) :=
  untilEnd do
    let a ← p
    if !(← atEnd) then op ","
    return a

def runAll (p : Parser α) (ts : List Token) : Except SyntaxError (α × List Token) := do
  let (a, s) ← p.run { rest := ts }
  match s.stray with
  | some d => throw (.leftover (some d))
  | none =>
    if s.rest.isEmpty then return (a, s.written.reverse) else throw (.leftover none)

end Parser

end SlotBinding.Syntax
