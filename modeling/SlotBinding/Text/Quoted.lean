import SlotBinding.Unicode.Character

/-!
# Quoted text

`quote` writes a text between double quotes so that every character is visible. `literal` is the
form used in generated source, where a NUL before an octal digit is written with two digits.
-/

namespace SlotBinding.Text.Quoted

def codePoint (c : Char) : List Char :=
  '\\' :: 'u' :: '\x7b' :: Nat.toDigits 16 c.toNat ++ ['\x7d']

/-- A character inside double quotes; a single quote stays as it is. -/
def escape (c : Char) : List Char :=
  match c with
  | '\x00' => ['\\', '0']
  | '\t' => ['\\', 't']
  | '\r' => ['\\', 'r']
  | '\n' => ['\\', 'n']
  | '\\' => ['\\', '\\']
  | '"' => ['\\', '"']
  | c => if Unicode.isVisible c then [c] else codePoint c

def quote (s : String) : String :=
  String.ofList ('"' :: s.toList.flatMap escape ++ ['"'])

def startsOctal : List Char → Bool
  | c :: _ => '0' ≤ c && c ≤ '7'
  | [] => false

/-- The inside of a string literal. -/
def literalChars : List Char → List Char
  | [] => []
  | c :: rest =>
    (if c == '\x00' && startsOctal rest then ['\\', 'x', '0', '0'] else escape c) ++ literalChars rest

def literal (s : String) : String :=
  String.ofList ('"' :: literalChars s.toList ++ ['"'])

end SlotBinding.Text.Quoted
