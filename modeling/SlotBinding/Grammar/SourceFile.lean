import SlotBinding.Grammar.Recursion

/-!
# Source files

A byte order mark and an interpreter line are skipped at the front of a file. The end of that line is
kept, so that lines are counted from the start of the file.
-/

namespace SlotBinding.Grammar

open Syntax Parser

/-- The text behind an interpreter line; the end of that line stays. -/
def afterInterpreterLine : List Char → List Char
  | '#' :: '!' :: rest =>
    if (Spelling.afterGaps rest).head? = some '[' then '#' :: '!' :: rest
    else rest.dropWhile (· != '\n')
  | cs => cs

def afterMark : List Char → List Char
  | '\ufeff' :: rest => rest
  | cs => cs

def fileTokens? (source : String) : Option (List Token) :=
  Token.ofChars? (afterInterpreterLine (afterMark source.toList))

def readFile (g : Grammar) : Parser SourceFile := do
  let attributes ← innerAttributes g
  return { attributes, items := ← untilEnd g.item }

/-- Reads a source file. -/
def sourceFile (source : String) : Except SyntaxError SourceFile :=
  match fileTokens? source with
  | some ts => (readAll readFile ts).map (·.1)
  | none => .error .unreadable

end SlotBinding.Grammar
