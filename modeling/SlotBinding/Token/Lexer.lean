import SlotBinding.Token.Spelling
import SlotBinding.Text.Quoted

/-!
# From text to tokens

`Token.ofChars?` reads a text into token trees, or nothing where a token is broken or a group is not
closed. Comments vanish, except that documentation comments become `doc` attributes.
-/

namespace SlotBinding

namespace Position

def next (p : Position) (c : Char) : Position :=
  if c == '\n' then ⟨p.line + 1, 0⟩ else ⟨p.line, p.column + 1⟩

def advance (p : Position) (cs : List Char) : Position := cs.foldl next p

def first : Position := ⟨1, 0⟩

end Position

namespace Spelling

/-- Blanks, and the two direction marks. -/
def isGap (c : Char) : Bool :=
  Unicode.isBlank c || c.toNat == 0x200e || c.toNat == 0x200f

/-- A line up to its end; a carriage return belongs to the end. -/
def lineRest : List Char → Piece
  | [] => ([], [])
  | c :: rest =>
    if c == '\n' then ([], c :: rest)
    else if c == '\r' && rest.head? == some '\n' then ([], c :: rest)
    else (lineRest rest).after [c]

/-- A block comment from behind its opening, with comments nested in it. -/
def blockRest : Nat → List Char → Option Piece
  | depth, '/' :: '*' :: rest => (blockRest (depth + 1) rest).map (Piece.after ['/', '*'])
  | depth, '*' :: '/' :: rest =>
    if depth == 0 then some (['*', '/'], rest)
    else (blockRest (depth - 1) rest).map (Piece.after ['*', '/'])
  | depth, c :: rest => (blockRest depth rest).map (Piece.after [c])
  | _, [] => none

def comment : List Char → Option Piece
  | '/' :: '/' :: rest =>
    if ("/".toList.isPrefixOf rest && !"//".toList.isPrefixOf rest) || "!".toList.isPrefixOf rest then
      none
    else some ((lineRest rest).after ['/', '/'])
  | '/' :: '*' :: '*' :: '/' :: rest => some (['/', '*', '*', '/'], rest)
  | '/' :: '*' :: rest =>
    if ("*".toList.isPrefixOf rest && !"**".toList.isPrefixOf rest) || "!".toList.isPrefixOf rest then
      none
    else (blockRest 0 rest).map (Piece.after ['/', '*'])
  | _ => none

def gap (cs : List Char) : Option Piece :=
  match comment cs with
  | some p => some p
  | none =>
    match cs with
    | c :: rest => if isGap c then some ([c], rest) else none
    | [] => none

/-- The characters behind all blanks and comments at the front. -/
def afterGaps (cs : List Char) : List Char :=
  go cs.length cs
where
  /-- Drops at most so many gaps. -/
  go : Nat → List Char → List Char
    | 0, cs => cs
    | n + 1, cs =>
      match gap cs with
      | some p => go n p.2
      | none => cs

/-! ### Documentation -/

/-- A documentation comment: whether it is about what encloses it, its text, and the piece. -/
structure DocComment where
  inner : Bool
  body : List Char
  piece : Piece

/-- The text without the two characters that close a block. -/
def withoutClose (cs : List Char) : List Char := cs.take (cs.length - 2)

/-- A carriage return is allowed only at the end of a line. -/
def hasBareReturn : List Char → Bool
  | [] => false
  | c :: rest => (c == '\r' && rest.head? != some '\n') || hasBareReturn rest

def docLine (inner : Bool) (front rest : List Char) : DocComment :=
  ⟨inner, (lineRest rest).1, (lineRest rest).after front⟩

def docBlock (inner : Bool) (front rest : List Char) : Option DocComment :=
  (blockRest 0 rest).map fun p => ⟨inner, withoutClose p.1, p.after front⟩

def anyDocComment : List Char → Option DocComment
  | '/' :: '/' :: '!' :: rest => some (docLine true ['/', '/', '!'] rest)
  | '/' :: '*' :: '!' :: rest => docBlock true ['/', '*', '!'] rest
  | '/' :: '/' :: '/' :: rest =>
    if rest.head? == some '/' then none else some (docLine false ['/', '/', '/'] rest)
  | '/' :: '*' :: '*' :: rest =>
    if rest.head? == some '*' then none else docBlock false ['/', '*', '*'] rest
  | _ => none

def docComment (cs : List Char) : Option DocComment :=
  (anyDocComment cs).bind fun d => if hasBareReturn d.body then none else some d

/-- The tokens of the attribute a documentation comment stands for. -/
def DocComment.tokens (start : Position) (d : DocComment) : List Token :=
  let text := Text.Quoted.literal (String.ofList d.body)
  .punct start '#' .alone ::
    ((if d.inner then [.punct start '!' .alone] else []) ++
      [.group start .bracket
        [.word start "doc", .punct start '=' .alone, .literal start ⟨.string, text⟩]])

end Spelling

namespace Token

open Spelling

/-- A group that is still open: where it started and the tokens before it, newest first. -/
structure OpenGroup where
  start : Position
  delimiter : Delimiter
  before : List Token

/-- What has been read so far. Tokens are kept newest first. -/
structure Reading where
  chars : List Char
  position : Position
  groups : List OpenGroup
  tokens : List Token

namespace Reading

def past (r : Reading) (p : Piece) (tokens : List Token) : Reading :=
  { r with
    chars := p.2
    position := r.position.advance p.1
    tokens := tokens.reverse ++ r.tokens }

def openDelimiter? : Char → Option Delimiter
  | '(' => some .paren
  | '[' => some .bracket
  | '\x7b' => some .brace
  | _ => none

def closeDelimiter? : Char → Option Delimiter
  | ')' => some .paren
  | ']' => some .bracket
  | '\x7d' => some .brace
  | _ => none

/-- The spelling under which a broken expression is printed; it is read as one literal. -/
def brokenExpression : List Char := "(/*ERROR*/)".toList

def leaf (r : Reading) : Option Reading :=
  match Spelling.literal r.chars with
  | some (l, p) => some (r.past p [.literal r.position l])
  | none =>
    match Spelling.punct r.chars with
    | some (c, s, rest) => some (r.past ([c], rest) [.punct r.position c s])
    | none =>
      match Spelling.word r.chars with
      | some p => some (r.past p [.word r.position (String.ofList p.1)])
      | none => none

def enter (r : Reading) (d : Delimiter) (c : Char) (rest : List Char) : Reading :=
  { r with
    chars := rest
    position := r.position.next c
    groups := ⟨r.position, d, r.tokens⟩ :: r.groups
    tokens := [] }

/-- Closes the innermost group, which must have the same delimiter. -/
def leave (r : Reading) (d : Delimiter) (c : Char) (rest : List Char) : Option Reading :=
  match r.groups with
  | g :: outer =>
    if g.delimiter = d then
      some { chars := rest
             position := r.position.next c
             groups := outer
             tokens := .group g.start d r.tokens.reverse :: g.before }
    else none
  | [] => none

def step (r : Reading) (c : Char) (rest : List Char) : Option Reading :=
  match gap r.chars with
  | some p => some (r.past p [])
  | none =>
    match docComment r.chars with
    | some d => some (r.past d.piece (d.tokens r.position))
    | none =>
      if brokenExpression.isPrefixOf r.chars then
        some (r.past (brokenExpression, r.chars.drop brokenExpression.length)
          [.literal r.position ⟨.other, String.ofList brokenExpression⟩])
      else
        match openDelimiter? c, closeDelimiter? c with
        | some d, _ => some (r.enter d c rest)
        | none, some d => r.leave d c rest
        | none, none => r.leaf

/-- At most so many steps; all groups must be closed at the end. -/
def run : Nat → Reading → Option (List Token)
  | 0, _ => none
  | n + 1, r =>
    match r.chars with
    | [] => if r.groups.isEmpty then some r.tokens.reverse else none
    | c :: rest =>
      match r.step c rest with
      | some next => run n next
      | none => none

end Reading

def ofCharsAt? (start : Position) (cs : List Char) : Option (List Token) :=
  Reading.run (cs.length + 1) ⟨cs, start, [], []⟩

/-- Reads a text; a byte order mark at its front is skipped. -/
def ofChars? : List Char → Option (List Token)
  | '\ufeff' :: rest => ofCharsAt? ⟨1, 1⟩ rest
  | cs => ofCharsAt? .first cs

/-- Reads a text; a byte order mark at its front is skipped. -/
def ofString? (s : String) : Option (List Token) := ofChars? s.toList

end Token

end SlotBinding
