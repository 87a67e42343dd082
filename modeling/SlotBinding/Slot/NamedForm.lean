import SlotBinding.Grammar.Recursion
import SlotBinding.Slot.Fault
import SlotBinding.Slot.Range
import SlotBinding.Text.Similarity
import SlotBinding.Token.Unquote

/-!
# The named form of a slot mark

A list of items of which `id = 10` gives the slot. All faults of a list are collected, in the order of
the items; a missing field comes last.
-/

namespace SlotBinding.Slot

open Syntax Parser Grammar

/-- What follows the name of an item. -/
inductive ItemValue
  | word
  | list (inner : List Token)
  | value (shape : ExprShape)

inductive NestedItem
  | literal
  | named (name : String) (value : ItemValue)

/-- The segments of a name; any word may be one. -/
def nameSegments : Nat → Parser (List String)
  | 0 => return []
  | n + 1 => do
    if !(← peek .anyWord) then failHere "expected path segment after `::`"
    let (_, w) ← anyWord
    if ← op? "::" then return w :: (← nameSegments n) else return [w]

/-- The value behind `=`; a literal that ends the list keeps its sign. -/
def itemValue (g : Grammar) : Parser ExprShape := do
  match frontLiteral (← get).rest with
  | some (l, []) =>
    discard literal
    return .literal l
  | _ =>
    if (← peek (.op "#")) && (← peek2 (.group .bracket)) then
      failHere "unexpected attribute inside of attribute"
    g.expr true

/-- Whether a literal stands here that is not the name of an item. -/
def literalFollows : Parser Bool := do
  let truth ← peekAny [.word "true", .word "false"]
  return (← peek .literal) && !(truth && (← peek2 (.op "=")))

def nestedItem (g : Grammar) : Parser NestedItem := do
  if ← literalFollows then
    discard literal
    return .literal
  if !(← peek .anyWord) then failHere "expected identifier or literal"
  let name := "::".intercalate (← nameSegments ((← get).rest.length + 1))
  if ← peekAny [.group .paren, .group .bracket, .group .brace] then
    return .named name (.list (← rawGroup).2)
  else if ← op? "=" then return .named name (.value (← itemValue g))
  else return .named name .word

def nestedItems (ts : List Token) : Except SyntaxError (List NestedItem) :=
  (readAll (fun g => commaTerminated (nestedItem g)) ts).map (·.1)

def literalKindName : LiteralKind → String
  | .string => "string"
  | .byteString => "byte string"
  | .nulString => "unknown"
  | .byte => "byte"
  | .character => "char"
  | .integer => "int"
  | .float => "float"
  | .other => "verbatim"

/-- How an expression is named. -/
def exprKindName : ExprShape → String
  | .array => "array"
  | .assign => "assign"
  | .async => "async"
  | .await => "await"
  | .binary _ => "binary"
  | .block => "block"
  | .break => "break"
  | .call => "call"
  | .cast => "cast"
  | .closure => "closure"
  | .const => "const"
  | .continue => "continue"
  | .field => "field"
  | .forLoop => "for_loop"
  | .if => "if"
  | .index => "index"
  | .infer => "infer"
  | .let => "let"
  | .literal _ => "lit"
  | .loop => "loop"
  | .invocation _ => "macro"
  | .match => "match"
  | .methodCall => "method_call"
  | .paren => "paren"
  | .path => "path"
  | .range => "range"
  | .rawAddress => "unknown"
  | .reference => "reference"
  | .repeat => "repeat"
  | .return => "return"
  | .struct => "struct"
  | .try => "try"
  | .tryBlock => "try_block"
  | .tuple => "tuple"
  | .unary _ _ => "unary"
  | .unsafeBlock => "unsafe"
  | .verbatim => "verbatim"
  | .while => "while"
  | .yield => "yield"

def fitted (n : Int) : Except FormFault Int32 :=
  match ofInt? n with
  | some slot => .ok slot
  | none => .error (if n < 0 then .tooSmall else .tooLarge)

def ofText (text : String) : Except FormFault Int32 :=
  match (signedDecimal? text).bind ofInt? with
  | some slot => .ok slot
  | none => .error (.valueText text)

def ofShape : ExprShape → Except FormFault Int32
  | .literal (.truth _) => .error (.valueType "bool")
  | .literal (.literal l) =>
    match l.stringValue?, l.integerValue? with
    | some text, _ => ofText text
    | none, some n => fitted n
    | none, none => .error (.valueType (literalKindName l.kind))
  | e => .error (.valueType (exprKindName e))

def ofItemValue : ItemValue → Except FormFault Int32
  | .word => .error (.format "word")
  | .list inner =>
    match nestedItems inner with
    | .error e => .error (.grammar e)
    | .ok _ => .error (.format "list")
  | .value shape => ofShape shape

/-- What was found so far. -/
structure Findings where
  /-- Whether the field was seen. -/
  seen : Bool := false
  slot : Option Int32 := none
  /-- The faults, newest first. -/
  faults : List FormFault := []

namespace Findings

def withFault (f : Findings) (fault : FormFault) : Findings := { f with faults := fault :: f.faults }

def add (f : Findings) : NestedItem → Findings
  | .literal => f.withFault (.format "literal")
  | .named name value =>
    if name != fieldName then
      f.withFault (.unknownField name (Text.areSimilar name fieldName))
    else if f.seen then f.withFault .duplicateField
    else
      match ofItemValue value with
      | .ok slot => { f with seen := true, slot := some slot }
      | .error fault => { f with seen := true }.withFault (.inField fault)

/-- The slot, or all faults in order. -/
def close (f : Findings) : Except (List FormFault) Int32 :=
  let faults := f.faults.reverse ++ if f.seen then [] else [.missingField]
  match f.slot, faults with
  | some slot, [] => .ok slot
  | _, faults => .error faults

end Findings

def ofItems (items : List NestedItem) : Except (List FormFault) Int32 :=
  (items.foldl Findings.add {}).close

def ofNamedForm (ts : List Token) : Except (List FormFault) Int32 :=
  match nestedItems ts with
  | .error e => .error [.grammar e]
  | .ok items => ofItems items

end SlotBinding.Slot
