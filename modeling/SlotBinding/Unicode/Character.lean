import SlotBinding.Unicode.DisplayTable
import SlotBinding.Unicode.IdentifierTable

/-!
# Character classes

Blanks, identifier characters and visible characters. ASCII is decided by plain comparisons, the
rest by the range tables.
-/

namespace SlotBinding.Unicode

/-- The property `White_Space`. -/
def isBlank (c : Char) : Bool :=
  let n := c.toNat
  (9 ≤ n && n ≤ 13) || n == 0x20 || n == 0x85 || n == 0xa0 || n == 0x1680
    || (0x2000 ≤ n && n ≤ 0x200a) || n == 0x2028 || n == 0x2029 || n == 0x202f || n == 0x205f
    || n == 0x3000

def isAsciiLetter (c : Char) : Bool :=
  ('a' ≤ c && c ≤ 'z') || ('A' ≤ c && c ≤ 'Z')

def isAsciiDigit (c : Char) : Bool :=
  '0' ≤ c && c ≤ '9'

/-- `XID_Start` or an underscore. -/
def isIdentifierStart (c : Char) : Bool :=
  if c.toNat < 128 then isAsciiLetter c || c == '_' else identifierStarts.contains c.toNat

/-- `XID_Continue`, which has the underscore. -/
def isIdentifierContinue (c : Char) : Bool :=
  if c.toNat < 128 then isAsciiLetter c || isAsciiDigit c || c == '_'
  else identifierContinues.contains c.toNat

/-- Characters shown as themselves in quoted text. -/
def isVisible (c : Char) : Bool :=
  if c.toNat < 128 then 32 ≤ c.toNat && c.toNat < 127
  else !graphemeExtenders.contains c.toNat && !unprintables.contains c.toNat

def isWord : List Char → Bool
  | [] => false
  | c :: rest => isIdentifierStart c && rest.all isIdentifierContinue

end SlotBinding.Unicode
