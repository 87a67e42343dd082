import SlotBinding.Diagnostic
import SlotBinding.Files.Path
import SlotBinding.Site.Basic

/-!
# What a scan finds, and where it is

A scan walks the modules of a crate and notes every slot mark, whatever it is attached to, the files it
read and the files it could not read.
-/

namespace SlotBinding

open Syntax (Attribute Visibility ModuleDecl)
open Files (Path)

/-- What a scan found, in the order in which it was found. -/
structure ScanOutput where
  sites : List Site := []
  diagnostics : List Diagnostic := []
  /-- The files that were read. -/
  files : List Path := []
  deriving Inhabited

namespace ScanOutput

def append (a b : ScanOutput) : ScanOutput :=
  ⟨a.sites ++ b.sites, a.diagnostics ++ b.diagnostics, a.files ++ b.files⟩

instance : Append ScanOutput := ⟨append⟩

def ofSites (sites : List Site) : ScanOutput := { sites }

/-- A source that cannot be used. -/
def unavailable (location : Location) (message : String) : ScanOutput :=
  { diagnostics := [.error .sourceUnavailable (some location) message] }

end ScanOutput

namespace Syntax.Attribute

def isCfg (a : Attribute) : Bool := a.path.isWord "cfg"

/-- Whether the attribute lets the item into test builds only. -/
def isCfgTest (a : Attribute) : Bool :=
  a.isCfg &&
    match a.argument with
    | .list _ [.word _ w] => w == "test"
    | _ => false

def filePath? (a : Attribute) : Option String :=
  if a.path.isWord "path" then
    match a.argument with
    | .value (some l) => l.stringValue?
    | _ => none
  else none

end Syntax.Attribute

def cfgAttributes (as : List Attribute) : List Attribute := as.filter (·.isCfg)

/-- The file that the first such attribute names for a module. -/
def filePath? (as : List Attribute) : Option String := as.findSome? (·.filePath?)

/-- Whether an item is left out of a scan. -/
def isTestOnly (as : List Attribute) : Bool := as.any (·.isCfgTest)

def plainName (name : String) : String :=
  match name.toList with
  | 'r' :: '#' :: rest => String.ofList rest
  | _ => name

/-- Where a scan is in the tree of modules. -/
structure ModuleContext where
  /-- The names of the modules from the root on. -/
  path : List String
  /-- Where the files of the modules below this one are. -/
  dir : Path
  /-- The file that is being read. -/
  file : String
  /-- The outermost module on the path that the crate root cannot name. -/
  sealedModule : Option String := none
  /-- The conditions on the modules of the path. -/
  cfg : List Attribute := []
  deriving Inhabited

namespace ModuleContext

def depth (c : ModuleContext) : Nat := c.path.length

def location (c : ModuleContext) (p : Position) : Location := .ofPosition c.file p

/-- The module on the path of a child that the crate root cannot name. Modules of the root itself can
be named whatever their visibility. -/
def childSealed (c : ModuleContext) (name : String) (v : Visibility) : Option String :=
  match c.sealedModule with
  | some m => some m
  | none =>
    if 0 < c.depth && Access.ofVisibility v c.depth = .private then
      some ("::".intercalate (c.path ++ [name]))
    else none

def child (c : ModuleContext) (m : ModuleDecl) : ModuleContext :=
  let name := plainName m.name
  { path := c.path ++ [name]
    dir := c.dir.join name
    file := c.file
    sealedModule := c.childSealed name m.visibility
    cfg := c.cfg ++ cfgAttributes m.attributes }

end ModuleContext

end SlotBinding
