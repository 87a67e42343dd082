import SlotBinding.Unicode.Character
import SlotBinding.Token.Basic

/-!
# Integer literals

`IntegerLiteral.ofChars?` reads digits in base 10, 16, 8 or 2 with underscores and an optional
suffix. A spelling with a fraction or an exponent is not an integer.
-/

namespace SlotBinding

structure IntegerLiteral where
  value : Nat
  suffix : List Char
  deriving Repr, DecidableEq

namespace IntegerLiteral

def digitValue? (c : Char) : Option Nat :=
  if '0' ≤ c && c ≤ '9' then some (c.toNat - '0'.toNat)
  else if 'a' ≤ c && c ≤ 'f' then some (c.toNat - 'a'.toNat + 10)
  else if 'A' ≤ c && c ≤ 'F' then some (c.toNat - 'A'.toNat + 10)
  else none

/-- The base named by the first two characters, and the rest. -/
def base : List Char → Nat × List Char
  | '0' :: 'x' :: rest => (16, rest)
  | '0' :: 'o' :: rest => (8, rest)
  | '0' :: 'b' :: rest => (2, rest)
  | rest => (10, rest)

/-- Whether the characters after an `e` make the number a float. -/
def isExponent : List Char → Bool → Bool
  | [], seen => seen
  | c :: rest, seen =>
    if c == '_' then isExponent rest seen
    else if c == '-' || c == '+' then true
    else if Unicode.isAsciiDigit c then isExponent rest true
    else seen && Unicode.isWord (c :: rest)

/-- Whether the character ends an integer in base ten because a float was written. -/
def isFloatMark (c : Char) (rest : List Char) : Bool :=
  c == '.' || ((c == 'e' || c == 'E') && isExponent rest false)

def close (value : Nat) (seen : Bool) (suffix : List Char) : Option IntegerLiteral :=
  if seen && (suffix.isEmpty || Unicode.isWord suffix) then some ⟨value, suffix⟩ else none

def digits (base : Nat) : List Char → Nat → Bool → Option IntegerLiteral
  | [], value, seen => close value seen []
  | c :: rest, value, seen =>
    if c == '_' then digits base rest value seen
    else if base == 10 && isFloatMark c rest then none
    else
      match digitValue? c with
      | some d =>
        if d < base then digits base rest (value * base + d) true
        else if d < 10 then none
        else close value seen (c :: rest)
      | none => close value seen (c :: rest)

def ofChars? (cs : List Char) : Option IntegerLiteral :=
  match cs with
  | [] => none
  | c :: _ =>
    if Unicode.isAsciiDigit c then digits (base cs).1 (base cs).2 0 false else none

end IntegerLiteral

namespace Literal

def integerValue? (l : Literal) : Option Int :=
  match l.kind, l.text.toList with
  | .integer, '-' :: rest => (IntegerLiteral.ofChars? rest).map fun i => -(i.value : Int)
  | .integer, cs => (IntegerLiteral.ofChars? cs).map fun i => (i.value : Int)
  | _, _ => none

def decimalDigits? (l : Literal) : Option String :=
  match l.kind, l.text.toList with
  | .integer, '-' :: rest => (IntegerLiteral.ofChars? rest).map fun i => "-" ++ toString i.value
  | .integer, cs => (IntegerLiteral.ofChars? cs).map fun i => toString i.value
  | _, _ => none

def integerSuffix (l : Literal) : List Char :=
  match l.text.toList with
  | '-' :: rest => ((IntegerLiteral.ofChars? rest).map (·.suffix)).getD []
  | cs => ((IntegerLiteral.ofChars? cs).map (·.suffix)).getD []

end Literal

end SlotBinding
