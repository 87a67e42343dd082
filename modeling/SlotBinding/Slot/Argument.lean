import SlotBinding.Slot.NamedForm

/-!
# The argument of a slot mark

A mark holds one integer literal with at most one minus sign, or the named form.
-/

namespace SlotBinding

/-- What a mark says about the slot. -/
inductive SlotArgument
  | id (slot : Int32)
  | malformed (reason : String)
  deriving Repr, DecidableEq, Inhabited

def markName : String := "bind"

namespace Syntax.Attribute

def isMark (a : Attribute) : Bool := a.path.isWord markName

end Syntax.Attribute

namespace SlotArgument

open Syntax Grammar

/-- The integer that an expression consists of, with its digits in base ten as they are named in
messages. -/
def integer? : ExprShape → Option (Int × String)
  | .literal (.literal l) =>
    match l.integerValue?, l.decimalDigits? with
    | some n, some digits => some (n, digits)
    | _, _ => none
  | .unary '-' (.literal (.literal l)) =>
    match l.integerValue?, l.decimalDigits? with
    | some n, some digits => some (-n, "-" ++ digits)
    | _, _ => none
  | _ => none

def ofInteger (n : Int) (digits : String) : SlotArgument :=
  match Slot.ofInt? n with
  | some slot => id slot
  | none => malformed ("slot id `" ++ digits ++ "` does not fit in i32")

def ofNamedForm (ts : List Token) : SlotArgument :=
  match Slot.ofNamedForm ts with
  | .ok slot => id slot
  | .error faults => malformed (Slot.FormFault.messageAll faults)

def ofTokens (ts : List Token) : SlotArgument :=
  match readAll (fun g => g.expr true) ts with
  | .ok (shape, _) =>
    match integer? shape with
    | some (n, digits) => ofInteger n digits
    | none => ofNamedForm ts
  | .error _ => ofNamedForm ts

def ofAttribute (a : Attribute) : SlotArgument :=
  match a.argument with
  | .none => malformed "missing slot id"
  | .value _ => malformed "expected `#[bind(<id>)]`, found `#[bind = ..]`"
  | .list _ inner => ofTokens inner

end SlotArgument

end SlotBinding
