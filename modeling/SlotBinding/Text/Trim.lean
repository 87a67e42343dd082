import SlotBinding.Unicode.Character

/-!
# Blank ends and letter case
-/

namespace SlotBinding.Text

open Unicode (isBlank)

def trimChars (cs : List Char) : List Char :=
  ((cs.dropWhile isBlank).reverse.dropWhile isBlank).reverse

def trim (s : String) : String :=
  String.ofList (trimChars s.toList)

/-- The characters neither start nor end with a blank. -/
def BareEnds (cs : List Char) : Prop :=
  (∀ c ∈ cs.head?, isBlank c = false) ∧ ∀ c ∈ cs.getLast?, isBlank c = false

/-- The text with nothing but blanks around it. -/
def Pads (padded s : String) : Prop :=
  ∃ before after, padded.toList = before ++ s.toList ++ after ∧ ∀ c ∈ before ++ after, isBlank c = true

def Blank (s : String) : Prop := ∀ c ∈ s.toList, isBlank c = true

instance (s : String) : Decidable (Blank s) := inferInstanceAs (Decidable (∀ c ∈ s.toList, isBlank c = true))

/-- Only the ASCII letters change case. -/
def lowerAscii (s : String) : String :=
  String.ofList (s.toList.map fun c => if 'A' ≤ c && c ≤ 'Z' then Char.ofNat (c.toNat + 32) else c)

def replaceChar (old new : Char) (s : String) : String :=
  String.ofList (s.toList.map fun c => if c == old then new else c)

end SlotBinding.Text
