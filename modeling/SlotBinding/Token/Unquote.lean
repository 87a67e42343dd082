import SlotBinding.Token.Number

/-!
# The value of a string literal

`Literal.stringValue?` decodes the escapes of a string literal. Raw strings are taken as they are.
-/

namespace SlotBinding.Literal

/-- The characters in which a line continuation is swallowed. -/
def isContinuationBlank (c : Char) : Bool :=
  c == ' ' || c == '\t' || c == '\n' || c == '\r'

def hexValue (cs : List Char) : Nat :=
  cs.foldl (fun n c => n * 16 + (IntegerLiteral.digitValue? c).getD 0) 0

/-- What the decoder is in the middle of. -/
inductive Decoding
  | plain
  | carriage
  | escape
  | hex (read : List Char)
  | braced (read : List Char)
  | continued

def simpleEscape : Char → Char
  | 'n' => '\n'
  | 'r' => '\r'
  | 't' => '\t'
  | '0' => '\x00'
  | c => c

def decode : Decoding → List Char → List Char
  | _, [] => []
  | .plain, c :: rest =>
    if c == '"' then []
    else if c == '\\' then decode .escape rest
    else if c == '\r' then decode .carriage rest
    else c :: decode .plain rest
  | .carriage, _ :: rest => '\n' :: decode .plain rest
  | .escape, c :: rest =>
    if c == 'x' then decode (.hex []) rest
    else if c == 'u' then decode (.braced []) rest
    else if c == '\n' || c == '\r' then decode .continued rest
    else simpleEscape c :: decode .plain rest
  | .hex read, c :: rest =>
    match read with
    | [] => decode (.hex [c]) rest
    | read => Char.ofNat (hexValue (read ++ [c])) :: decode .plain rest
  | .braced read, c :: rest =>
    if c == '\x7d' then Char.ofNat (hexValue read) :: decode .plain rest
    else if c == '\x7b' || c == '_' then decode (.braced read) rest
    else decode (.braced (read ++ [c])) rest
  | .continued, c :: rest =>
    if isContinuationBlank c then decode .continued rest
    else if c == '"' then []
    else if c == '\\' then decode .escape rest
    else c :: decode .plain rest

/-- The inside of a raw string with the given number of marks. -/
def rawInside (marks : Nat) : List Char → List Char
  | [] => []
  | c :: rest =>
    if c == '"' && rest.take marks == List.replicate marks '#' then [] else c :: rawInside marks rest

def decodeLiteral : List Char → Option (List Char)
  | '"' :: rest => some (decode .plain rest)
  | 'r' :: rest =>
    let marks := (rest.takeWhile (· == '#')).length
    some (rawInside marks (rest.drop (marks + 1)))
  | _ => none

def stringValue? (l : Literal) : Option String :=
  match l.kind with
  | .string => (decodeLiteral l.text.toList).map String.ofList
  | _ => none

end SlotBinding.Literal
