/-!
# Slot numbers

A slot number is a signed word of 32 bits.
-/

namespace SlotBinding.Slot

def ofInt? (n : Int) : Option Int32 :=
  if -2147483648 ≤ n ∧ n ≤ 2147483647 then some (Int32.ofInt n) else none

/-- The digits of a number in base ten; there must be one. -/
def decimal? (cs : List Char) : Option Nat :=
  match cs with
  | [] => none
  | cs =>
    cs.foldl
      (fun n c => if '0' ≤ c ∧ c ≤ '9' then n.map fun n => n * 10 + (c.toNat - '0'.toNat) else none)
      (some 0)

/-- A number in base ten with an optional sign. -/
def signedDecimal? (s : String) : Option Int :=
  match s.toList with
  | '-' :: rest => (decimal? rest).map fun n => -(n : Int)
  | '+' :: rest => (decimal? rest).map fun n => (n : Int)
  | cs => (decimal? cs).map fun n => (n : Int)

end SlotBinding.Slot
