import SlotBinding.Collection.InsertionMap
import SlotBinding.Files.Fault
import SlotBinding.Files.Path

/-!
# File trees

A tree of directories and files without links. Relative paths start in the working directory.
-/

namespace SlotBinding.Files

inductive Content
  | text (value : String)
  /-- Bytes that are not the code of a text. -/
  | binary
  deriving Repr, DecidableEq, Inhabited

inductive Entry
  | directory
  | file (content : Content)
  deriving Repr, DecidableEq, Inhabited

/-- The names that lead from the root to an entry. -/
abbrev Trail := List String

/-- A file tree. The root and the working directory are always there. -/
structure Tree where
  entries : InsertionMap Trail Entry := {}
  deriving Inhabited

namespace Tree

def working : Trail := ["work"]

def longestName : Nat := 255

def longestPath : Nat := 4095

def entry? (t : Tree) (trail : Trail) : Option Entry :=
  if trail = [] || trail = working then some .directory else t.entries.get? trail

def set (t : Tree) (trail : Trail) (e : Entry) : Tree := ⟨t.entries.insert trail e⟩

/-- Where a path leads. -/
inductive Place
  | directory (trail : Trail)
  | file (trail : Trail) (content : Content)
  /-- To a name that is free in its directory. -/
  | free (trail : Trail)
  deriving Repr, DecidableEq

/-- Follows the parts of a path from a directory. -/
def walk (t : Tree) : Trail → List String → Except Fault Place
  | trail, [] => .ok (.directory trail)
  | trail, p :: rest =>
    if p = "" || p = "." then walk t trail rest
    else if p = ".." then walk t trail.dropLast rest
    else if longestName < p.utf8ByteSize then .error .nameTooLong
    else
      let next := trail ++ [p]
      match t.entry? next with
      | some .directory => walk t next rest
      | some (.file content) => if rest = [] then .ok (.file next content) else .error .notADirectory
      | none => if rest.all (· = "") then .ok (.free next) else .error .notFound

/-- Follows the parts of a path if the path is one at all. -/
def follow (t : Tree) (p : Path) (parts : List String) : Except Fault Place :=
  if p.toList.contains '\x00' then .error .nulInName
  else if p = "" then .error .notFound
  else if longestPath < p.utf8ByteSize then .error .nameTooLong
  else t.walk (if p.isAbsolute then [] else working) parts

def find (t : Tree) (p : Path) : Except Fault Place := t.follow p p.parts

def isFile (t : Tree) (p : Path) : Bool :=
  match t.find p with
  | .ok (.file _ _) => true
  | _ => false

def isDirectory (t : Tree) (p : Path) : Bool :=
  match t.find p with
  | .ok (.directory _) => true
  | _ => false

def read (t : Tree) (p : Path) : Except Fault String :=
  match t.find p with
  | .error f => .error f
  | .ok (.directory _) => .error .isADirectory
  | .ok (.free _) => .error .notFound
  | .ok (.file _ .binary) => .error .notText
  | .ok (.file _ (.text s)) => .ok s

def makeDirectory (t : Tree) (p : Path) : Except Fault Tree :=
  match t.find p with
  | .error f => .error f
  | .ok (.free trail) => .ok (t.set trail .directory)
  | .ok _ => .error .alreadyThere

/-- Makes the missing directories, outermost first, or stops with a fault. What was made stays. -/
def makeAll (t : Tree) : List Path → Tree × Option Fault
  | [] => (t, none)
  | p :: rest =>
    match t.makeDirectory p with
    | .ok u => makeAll u rest
    | .error f => if f = .alreadyThere && t.isDirectory p then makeAll t rest else (t, some f)

/-- Makes the innermost directory that can be made, and then those that were missing below it. -/
def makeFromInnermost (t : Tree) : List Path → List Path → Tree × Option Fault
  | [], missing => makeAll t missing
  | p :: above, missing =>
    if p = "" then makeAll t missing
    else
      match t.makeDirectory p with
      | .ok u => makeAll u missing
      | .error .notFound => makeFromInnermost t above (p :: missing)
      | .error f =>
        if f = .alreadyThere && t.isDirectory p then makeAll t missing else (t, some f)

def makeDirectories (t : Tree) (p : Path) : Tree × Option Fault :=
  makeFromInnermost t p.ancestors []

/-- Where a file can be written. A name with slashes behind it is taken for one of a directory,
whatever it leads to. -/
def findForWriting (t : Tree) (p : Path) : Except Fault Place := t.follow p (p.slashedParts?.getD p.parts)

def write (t : Tree) (p : Path) (text : String) : Except Fault Tree :=
  match t.findForWriting p with
  | .error f => .error f
  | .ok (.directory _) => .error .isADirectory
  | .ok (.free trail) | .ok (.file trail _) => .ok (t.set trail (.file (.text text)))

/-- Puts an entry into the tree with all directories above it. -/
def plant (t : Tree) (names : List String) (e : Entry) : Tree :=
  let above := (List.range names.length).map fun n => working ++ names.take n
  let t := above.foldl (fun t trail => if (t.entry? trail).isSome then t else t.set trail .directory) t
  t.set (working ++ names) e

def ofList (es : List (Path × Entry)) : Tree :=
  es.foldl (fun t e => t.plant (e.1.parts.filter (· ≠ "")) e.2) {}

/-- The files below a directory by their paths from there. -/
def filesBelow (t : Tree) (p : Path) : List (Path × Content) :=
  match t.find p with
  | .ok (.directory trail) =>
    t.entries.toList.filterMap fun e =>
      match e.2 with
      | .file content =>
        if trail.isPrefixOf e.1 then some (Path.ofParts (e.1.drop trail.length), content) else none
      | .directory => none
  | _ => []

end Tree

end SlotBinding.Files
