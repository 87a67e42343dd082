import SlotBinding.Token.Basic

/-!
# Places in source files
-/

namespace SlotBinding

/-- A place in a file: lines count from one, columns from zero. The line zero stands for the whole
file. -/
structure Location where
  file : String := ""
  line : Nat := 0
  column : Nat := 0
  deriving Repr, DecidableEq, Inhabited

namespace Location

def ofFile (file : String) : Location := { file }

def ofPosition (file : String) (p : Position) : Location := ⟨file, p.line, p.column⟩

/-- The place as people count it, with columns from one. -/
def text (l : Location) : String :=
  if l.line = 0 then l.file
  else l.file ++ ":" ++ toString l.line ++ ":" ++ toString (l.column + 1)

def le (a b : Location) : Bool :=
  if a.file ≠ b.file then a.file < b.file
  else if a.line ≠ b.line then a.line < b.line
  else a.column ≤ b.column

end Location

end SlotBinding
