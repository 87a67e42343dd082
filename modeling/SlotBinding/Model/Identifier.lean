import SlotBinding.Syntax.Parser
import SlotBinding.Text.Quoted
import SlotBinding.Token.Lexer

/-!
# Identifiers made from texts
-/

namespace SlotBinding

/-- Why a text cannot be made an identifier. -/
inductive NameFault
  | empty
  | number
  | invalid (text : String)
  /-- A word that has no raw form. -/
  | neverRaw (text : String)
  deriving Repr, DecidableEq, Inhabited

namespace NameFault

def message : NameFault → String
  | empty => "Ident is not allowed to be empty; use Option<Ident>"
  | number => "Ident cannot be a number; use Literal instead"
  | invalid text => Text.Quoted.quote text ++ " is not a valid Ident"
  | neverRaw text => "`r#" ++ text ++ "` cannot be a raw identifier"

end NameFault

namespace Identifier

def rawMark : String := "r#"

def plain (s : String) : Except NameFault String :=
  if s = "" then .error .empty
  else if s.toList.all Unicode.isAsciiDigit then .error .number
  else if Unicode.isWord s.toList then .ok s
  else .error (.invalid s)

def raw (s : String) : Except NameFault String :=
  match plain s with
  | .error f => .error f
  | .ok s => if Spelling.neverRaw.contains s.toList then .error (.neverRaw s) else .ok (rawMark ++ s)

/-- The text behind the mark of raw identifiers, if it has one. -/
def behindMark? (s : String) : Option String :=
  match s.toList with
  | 'r' :: '#' :: rest => some (String.ofList rest)
  | _ => none

/-- The text as an identifier, which is raw where the text starts with the mark. -/
def ofText (s : String) : Except NameFault String :=
  match behindMark? s with
  | some rest => raw rest
  | none => plain s

/-- The name that a text spells, if it spells one and nothing else. -/
def spelled? (s : String) : Option String :=
  match Token.ofString? s with
  | some [.word _ w] => if Syntax.isName w then some w else none
  | _ => none

/-- The text as a segment of a path; a keyword is made raw. -/
def ofSegment (s : String) : Except NameFault String :=
  match spelled? s with
  | some w => .ok w
  | none => raw s

end Identifier

end SlotBinding
