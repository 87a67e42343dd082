/-!
# Paths

A path is a text with slashes between its parts. Nothing is normalised: a joined path keeps the text
of both of its parts.
-/

namespace SlotBinding.Files

abbrev Path := String

namespace Path

/-- The characters between slashes. -/
def splitSlash : List Char → List (List Char)
  | [] => [[]]
  | c :: rest =>
    if c = '/' then [] :: splitSlash rest
    else
      match splitSlash rest with
      | first :: more => (c :: first) :: more
      | [] => [[c]]

def parts (p : Path) : List String := (splitSlash p.toList).map String.ofList

def ofParts (ps : List String) : Path := "/".intercalate ps

/-- The parts of a path whose last name has slashes behind it, with a dot for that name. -/
def slashedParts? (p : Path) : Option (List String) :=
  match p.parts.reverse with
  | "" :: rest =>
    match rest.dropWhile (· = "") with
    | [] => none
    | name :: above => if name = "." || name = ".." then none else some (above.reverse ++ ["."])
  | _ => none

def isAbsolute (p : Path) : Bool := p.toList.head? = some '/'

/-- The second path seen from the first; an absolute second path replaces the first. -/
def join (base more : Path) : Path :=
  if more.isAbsolute then more
  else if base.isEmpty || base.toList.getLast? = some '/' then base ++ more
  else base ++ "/" ++ more

/-- The parts, last first, without those at the end that lead nowhere. The first part stays. -/
def trimmed : List String → List String
  | [] => []
  | [p] => [p]
  | p :: rest => if p = "" || p = "." then trimmed rest else p :: rest

/-- The directory that a path lies in, where the path has a name. -/
def parent? (p : Path) : Option Path :=
  match trimmed p.parts.reverse with
  | [] => none
  | [only] => if only = "" then none else some ""
  | _ :: above =>
    match trimmed above with
    | [""] => some "/"
    | ps => some (ofParts ps.reverse)

def parent (p : Path) : Path := p.parent?.getD ""

/-- The path and the directories above it, innermost first. -/
def ancestors (p : Path) : List Path :=
  go p.length p
where
  /-- At most so many steps up. -/
  go : Nat → Path → List Path
    | 0, p => [p]
    | n + 1, p =>
      match parent? p with
      | some q => p :: go n q
      | none => [p]

end Path

end SlotBinding.Files
