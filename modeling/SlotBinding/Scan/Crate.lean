import SlotBinding.Files.Tree
import SlotBinding.Grammar.SourceFile
import SlotBinding.Scan.Item
import SlotBinding.Text.Trim

/-!
# Scans of files and crates

A module without content is looked up in a file of its own. Files can lead back to each other, so a
scan takes a bound on how deeply modules may lie in files of their own, and gives nothing where that
is not enough.
-/

namespace SlotBinding

open Syntax (Item ModuleDecl SourceFile)
open Files (Path Tree)

namespace Scan

/-- The scan of the file of a module in a context. -/
abbrev FileScan := Path → ModuleContext → Option ScanOutput

/-- The two files in which a module is looked up. -/
def candidates (c : ModuleContext) (name : String) : Path × Path :=
  (c.dir.join (name ++ ".rs"), (c.dir.join name).join "mod.rs")

def notFound (c : ModuleContext) (m : ModuleDecl) : ScanOutput :=
  let name := plainName m.name
  let (flat, nested) := candidates c name
  .unavailable (c.location m.start)
    ("module `" ++ name ++ "` not found (looked for " ++ flat ++ " and " ++ nested ++ ")")

/-- The scan of a module that has a file of its own. -/
def fileModule (t : Tree) (file : FileScan) (c : ModuleContext) (m : ModuleDecl) :
    Option ScanOutput :=
  match filePath? m.attributes with
  | some p =>
    let f := c.dir.join p
    file f { c.child m with dir := f.parent }
  | none =>
    let (flat, nested) := candidates c (plainName m.name)
    if t.isFile flat then file flat (c.child m)
    else if t.isFile nested then file nested (c.child m)
    else some (notFound c m)

/-- The context inside a module whose content is given with it. -/
def inlineContext (c : ModuleContext) (m : ModuleDecl) : ModuleContext :=
  match filePath? m.attributes with
  | some p => { c.child m with dir := c.dir.join p }
  | none => c.child m

mutual

def item (crateName : String) (t : Tree) (file : FileScan) (c : ModuleContext) (i : Item) :
    Option ScanOutput :=
  match i with
  | .mod d content =>
    if isTestOnly d.attributes then some {}
    else do
      let inside ←
        match content with
        | some is => items crateName t file (inlineContext c d) is
        | none => fileModule t file c d
      return .ofSites (itemSites crateName c (.mod d none)) ++ inside
  | i => if isTestOnly i.attributes then some {} else some (.ofSites (itemSites crateName c i))

def items (crateName : String) (t : Tree) (file : FileScan) (c : ModuleContext) (is : List Item) :
    Option ScanOutput :=
  match is with
  | [] => some {}
  | i :: rest => do
    let first ← item crateName t file c i
    return first ++ (← items crateName t file c rest)

end

def source (crateName : String) (t : Tree) (file : FileScan) (c : ModuleContext) (text : String) :
    Option ScanOutput :=
  match Grammar.sourceFile text with
  | .error e => some (.unavailable (.ofFile c.file) ("failed to parse: " ++ e.message))
  | .ok f => items crateName t file { c with cfg := c.cfg ++ cfgAttributes f.attributes } f.items

/-- The scan of a file; modules may lie in files of their own so many levels deep. -/
def file (crateName : String) (t : Tree) : Nat → FileScan
  | 0, _, _ => none
  | n + 1, p, c =>
    match t.read p with
    | .error f => some (.unavailable (.ofFile p) ("failed to read: " ++ f.message))
    | .ok text => do
      let inside ← source crateName t (file crateName t n) { c with file := p } text
      return { files := [p] } ++ inside

def pathCrateName (name : String) : String := Text.replaceChar '-' '_' name

end Scan

def scanSource (levels : Nat) (t : Tree) (crateName : String) (modulePath : List String)
    (file text : String) : Option ScanOutput :=
  let name := Scan.pathCrateName crateName
  Scan.source name t (Scan.file name t levels) { path := modulePath, dir := "", file } text

/-- The scan of a crate from its root file on. -/
def scanCrate (levels : Nat) (t : Tree) (crateName : String) (root : Path) : Option ScanOutput :=
  Scan.file (Scan.pathCrateName crateName) t levels root { path := [], dir := root.parent, file := root }

namespace Scan

/-- Whether a module is declared with a path that does not depend on where its file is. -/
def isAnchored (m : ModuleDecl) : Bool := (filePath? m.attributes).any Path.isAbsolute

mutual

/-- The modules in files of their own that an absolute path leads to, each with the modules around it. -/
def anchored (around : List ModuleDecl) (i : Item) : List (List ModuleDecl × ModuleDecl) :=
  match i with
  | .mod d (some is) => anchoredAll (around ++ [d]) is
  | .mod d none => if (around ++ [d]).any isAnchored then [(around, d)] else []
  | _ => []

def anchoredAll (around : List ModuleDecl) (is : List Item) : List (List ModuleDecl × ModuleDecl) :=
  match is with
  | [] => []
  | i :: rest => anchored around i ++ anchoredAll around rest

end

/-- Those modules of all files of a tree. -/
def anchors (t : Tree) : List (List ModuleDecl × ModuleDecl) :=
  t.entries.toList.flatMap fun e =>
    match e.2 with
    | .file (.text s) =>
      match Grammar.sourceFile s with
      | .ok f => anchoredAll [] f.items
      | .error _ => []
    | _ => []

end Scan

/-- A number of levels that is enough where no file leads back to itself. Between two absolute paths the text
of a directory only grows, and a tree has only so many files to read with one directory. -/
def levelsFor (t : Tree) : Nat :=
  ((Scan.anchors t).length + 1) * (Tree.longestPath + 1) * (t.entries.size + 1)

end SlotBinding
