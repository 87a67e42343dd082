import SlotBinding.Token.Number

/-!
# Spellings of words, literals and punctuation

Every reader takes the characters that follow and gives the spelling it recognises and the rest, or
nothing. `literal` tries strings before numbers; `punct` and `word` read what is not a literal.
-/

namespace SlotBinding.Spelling

open Unicode (isIdentifierStart isIdentifierContinue isAsciiDigit)

/-- What was read and what follows it. -/
abbrev Piece := List Char × List Char

def Piece.after (front : List Char) (p : Piece) : Piece := (front ++ p.1, p.2)

def isHexDigit (c : Char) : Bool := (IntegerLiteral.digitValue? c).isSome

def isOctalDigit (c : Char) : Bool := '0' ≤ c && c ≤ '7'

def isScalar (n : Nat) : Bool :=
  n < 0xd800 || (0xdfff < n && n < 0x110000)

/-- A word without a raw mark. -/
def bareWord : List Char → Option Piece
  | [] => none
  | c :: rest =>
    if isIdentifierStart c then
      some (c :: rest.takeWhile isIdentifierContinue, rest.dropWhile isIdentifierContinue)
    else none

/-- The words that cannot be written raw. -/
def neverRaw : List (List Char) :=
  [['_'], "super".toList, "self".toList, "Self".toList, "crate".toList]

def anyWord : List Char → Option Piece
  | 'r' :: '#' :: rest =>
    (bareWord rest).bind fun p =>
      if neverRaw.contains p.1 then none else some (p.after ['r', '#'])
  | cs => bareWord cs

/-- The beginnings that belong to literals even where the literal is broken. -/
def literalBeginnings : List (List Char) :=
  ["r\"", "r#\"", "r##", "b\"", "b'", "br\"", "br#", "c\"", "cr\"", "cr#"].map String.toList

def word (cs : List Char) : Option Piece :=
  if literalBeginnings.any fun start => start.isPrefixOf cs then none else anyWord cs

/-! ### Quoted literals -/

/-- The three sorts of quoted literal differ in what they may hold. -/
inductive Content
  | text
  | bytes
  | nulEnded
  deriving DecidableEq

/-- What a reader of a quoted literal is in the middle of. -/
inductive Mode
  | plain
  | carriage
  | escape
  | hexHigh
  | hexLow (high : Char)
  | openBrace
  | codePoint (value count : Nat)
  | continued
  | continuedCarriage

/-- The letters that may follow a backslash, apart from numbers and line ends. -/
def isSimpleEscape (content : Content) (c : Char) : Bool :=
  ['n', 'r', 't', '\\', '\'', '"'].contains c || (c == '0' && content ≠ .nulEnded)

/-- The mode after a character outside escapes; the closing quote gives no mode. -/
def plainStep (content : Content) (c : Char) : Option (Option Mode) :=
  if c == '"' then some none
  else if c == '\r' then some (some .carriage)
  else if c == '\\' then some (some .escape)
  else
    match content with
    | .text => some (some .plain)
    | .bytes => if c.toNat < 128 then some (some .plain) else none
    | .nulEnded => if c == '\x00' then none else some (some .plain)

/-- The mode after the second digit of a two-digit escape. -/
def hexStep (content : Content) (high low : Char) : Option (Option Mode) :=
  if !isHexDigit low then none
  else
    match content with
    | .text => if isOctalDigit high then some (some .plain) else none
    | .bytes => some (some .plain)
    | .nulEnded => if high == '0' && low == '0' then none else some (some .plain)

/-- One character of a braced code point: the new value and count, or the finished number. -/
def codePointStep (value count : Nat) (c : Char) : Option (Nat × Nat ⊕ Nat) :=
  match IntegerLiteral.digitValue? c with
  | some d => if count == 6 then none else some (.inl (value * 16 + d, count + 1))
  | none =>
    if count == 0 then none
    else if c == '_' then some (.inl (value, count))
    else if c == '\x7d' && isScalar value then some (.inr value)
    else none

def step (content : Content) : Mode → Char → Option (Option Mode)
  | .plain, c => plainStep content c
  | .carriage, c => if c == '\n' then some (some .plain) else none
  | .escape, c =>
    if isSimpleEscape content c then some (some .plain)
    else if c == 'x' then some (some .hexHigh)
    else if c == 'u' && content ≠ .bytes then some (some .openBrace)
    else if c == '\n' then some (some .continued)
    else if c == '\r' then some (some .continuedCarriage)
    else none
  | .hexHigh, c => if isHexDigit c then some (some (.hexLow c)) else none
  | .hexLow high, c => hexStep content high c
  | .openBrace, c => if c == '\x7b' then some (some (.codePoint 0 0)) else none
  | .codePoint value count, c =>
    (codePointStep value count c).bind fun
      | .inl next => some (some (.codePoint next.1 next.2))
      | .inr n => if n == 0 && content = .nulEnded then none else some (some .plain)
  | .continued, c =>
    if c == ' ' || c == '\t' || c == '\n' then some (some .continued)
    else if c == '\r' then some (some .continuedCarriage)
    else plainStep content c
  | .continuedCarriage, c => if c == '\n' then some (some .continued) else none

def quoted (content : Content) : Mode → List Char → Option Piece
  | _, [] => none
  | mode, c :: rest =>
    (step content mode c).bind fun
      | none => some ([c], rest)
      | some next => (quoted content next rest).map (Piece.after [c])

/-- The rest of a raw literal up to the quote that is followed by the marks. -/
def rawQuoted (content : Content) (marks : List Char) : List Char → Option Piece
  | [] => none
  | c :: rest =>
    if c == '"' && marks.isPrefixOf rest then some (c :: marks, rest.drop marks.length)
    else if c == '\r' && rest.head? != some '\n' then none
    else if content = .bytes && 128 ≤ c.toNat then none
    else if content = .nulEnded && c == '\x00' then none
    else (rawQuoted content marks rest).map (Piece.after [c])

def rawLiteral (content : Content) (cs : List Char) : Option Piece :=
  let marks := cs.takeWhile (· == '#')
  match cs.drop marks.length with
  | '"' :: rest =>
    if marks.length ≤ 255 then
      (rawQuoted content marks rest).map (Piece.after (marks ++ ['"']))
    else none
  | _ => none

def bracedCodePoint : Nat → Nat → List Char → Option Piece
  | _, _, [] => none
  | value, count, c :: rest =>
    (codePointStep value count c).bind fun
      | .inl next => (bracedCodePoint next.1 next.2 rest).map (Piece.after [c])
      | .inr _ => some ([c], rest)

def characterInside : List Char → Option Piece
  | '\\' :: 'x' :: a :: b :: rest =>
    if isOctalDigit a && isHexDigit b then some (['\\', 'x', a, b], rest) else none
  | '\\' :: 'u' :: '\x7b' :: rest =>
    (bracedCodePoint 0 0 rest).map (Piece.after ['\\', 'u', '\x7b'])
  | '\\' :: c :: rest => if isSimpleEscape .text c then some (['\\', c], rest) else none
  | '\\' :: [] => none
  | c :: rest => some ([c], rest)
  | [] => none

def byteInside : List Char → Option Piece
  | '\\' :: 'x' :: a :: b :: rest =>
    if isHexDigit a && isHexDigit b then some (['\\', 'x', a, b], rest) else none
  | '\\' :: c :: rest => if isSimpleEscape .text c then some (['\\', c], rest) else none
  | '\\' :: [] => none
  | c :: rest => if c.toNat < 128 then some ([c], rest) else none
  | [] => none

def closeQuote (p : Piece) : Option Piece :=
  match p.2 with
  | '\'' :: rest => some (p.1 ++ ['\''], rest)
  | _ => none

def withSuffix (p : Piece) : Piece :=
  match bareWord p.2 with
  | some s => s.after p.1
  | none => p

def quotedLiteral : List Char → Option (LiteralKind × Piece)
  | '"' :: rest => (quoted .text .plain rest).map fun p => (.string, p.after ['"'])
  | 'r' :: rest => (rawLiteral .text rest).map fun p => (.string, p.after ['r'])
  | 'b' :: '"' :: rest => (quoted .bytes .plain rest).map fun p => (.byteString, p.after ['b', '"'])
  | 'b' :: 'r' :: rest => (rawLiteral .bytes rest).map fun p => (.byteString, p.after ['b', 'r'])
  | 'c' :: '"' :: rest => (quoted .nulEnded .plain rest).map fun p => (.nulString, p.after ['c', '"'])
  | 'c' :: 'r' :: rest => (rawLiteral .nulEnded rest).map fun p => (.nulString, p.after ['c', 'r'])
  | 'b' :: '\'' :: rest =>
    ((byteInside rest).bind closeQuote).map fun p => (.byte, p.after ['b', '\''])
  | '\'' :: rest =>
    ((characterInside rest).bind closeQuote).map fun p => (.character, p.after ['\''])
  | _ => none

/-! ### Numbers and punctuation -/

def isDigitOrMark (c : Char) : Bool := isAsciiDigit c || c == '_'

def digitRun (cs : List Char) : Piece := (cs.takeWhile isDigitOrMark, cs.dropWhile isDigitOrMark)

/-- The exponent after an `e`; it needs a digit and may have one sign before the digits. -/
def exponent : List Char → Bool → Bool → Option Piece
  | [], _, valued => if valued then some ([], []) else none
  | c :: rest, signed, valued =>
    if c == '_' then (exponent rest signed valued).map (Piece.after [c])
    else if isAsciiDigit c then (exponent rest signed true).map (Piece.after [c])
    else if c == '+' || c == '-' then
      if valued then some ([], c :: rest)
      else if signed then none
      else (exponent rest true valued).map (Piece.after [c])
    else if valued then some ([], c :: rest)
    else none

def exponentAfter (mantissa : List Char) (rest : List Char) : Option Piece :=
  match rest with
  | c :: more =>
    if c == 'e' || c == 'E' then (exponent more false false).map (Piece.after (mantissa ++ [c]))
    else none
  | [] => none

/-- Whether a dot before these characters is not part of a number. -/
def stopsFraction : List Char → Bool
  | c :: _ => c == '.' || isIdentifierStart c
  | [] => false

def floatDigits (cs : List Char) : Option Piece :=
  let whole := digitRun cs
  match cs, whole.2 with
  | c :: _, '.' :: rest =>
    if !isAsciiDigit c || stopsFraction rest then none
    else
      let fraction := digitRun rest
      let mantissa := whole.1 ++ '.' :: fraction.1
      some ((exponentAfter mantissa fraction.2).getD (mantissa, fraction.2))
  | c :: _, rest => if isAsciiDigit c then exponentAfter whole.1 rest else none
  | [], _ => none

def baseDigits (base : Nat) : List Char → Bool → Option Piece
  | [], seen => if seen then some ([], []) else none
  | c :: rest, seen =>
    if c == '_' then
      if !seen && base == 10 then none else (baseDigits base rest seen).map (Piece.after [c])
    else
      match IntegerLiteral.digitValue? c with
      | some d =>
        if d < base then (baseDigits base rest true).map (Piece.after [c])
        else if d < 10 then none
        else if seen then some ([], c :: rest) else none
      | none => if seen then some ([], c :: rest) else none

def integerDigits (cs : List Char) : Option Piece :=
  match IntegerLiteral.base cs with
  | (10, rest) => baseDigits 10 rest false
  | (base, rest) => (baseDigits base rest false).map (Piece.after (cs.take 2))

/-- A number ends where no word character follows. -/
def endsWord (p : Piece) : Option Piece :=
  match p.2 with
  | c :: _ => if isIdentifierContinue c then none else some p
  | [] => some p

def numberLiteral (cs : List Char) : Option Piece :=
  match (floatDigits cs).bind fun p => endsWord (withSuffix p) with
  | some p => some p
  | none => (integerDigits cs).bind fun p => endsWord (withSuffix p)

/-- A number is an integer unless it has a fraction or an exponent. -/
def numberKind (spelling : List Char) : LiteralKind :=
  if (IntegerLiteral.ofChars? spelling).isSome then .integer else .float

def literal (cs : List Char) : Option (Literal × Piece) :=
  match quotedLiteral cs with
  | some (kind, p) =>
    let whole := withSuffix p
    some (⟨kind, String.ofList whole.1⟩, whole)
  | none => (numberLiteral cs).map fun p => (⟨numberKind p.1, String.ofList p.1⟩, p)

def punctuation : List Char := "~!@#$%^&*-=+|;:,<.>/?'".toList

def isPunct : List Char → Bool
  | '/' :: '/' :: _ => false
  | '/' :: '*' :: _ => false
  | c :: _ => punctuation.contains c
  | [] => false

/-- A quote starts a lifetime only where a word follows that is not itself closed by a quote. -/
def startsLifetime (rest : List Char) : Bool :=
  match anyWord rest with
  | some (_, '\'' :: _) => false
  | some (_, '#' :: _) => ['r', '#'].isPrefixOf rest
  | some _ => true
  | none => false

def punct (cs : List Char) : Option (Char × Spacing × List Char) :=
  match cs with
  | c :: rest =>
    if !isPunct cs then none
    else if c == '\'' then if startsLifetime rest then some (c, .joint, rest) else none
    else some (c, if isPunct rest then .joint else .alone, rest)
  | [] => none

end SlotBinding.Spelling
