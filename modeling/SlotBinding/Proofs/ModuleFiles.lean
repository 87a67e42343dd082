import SlotBinding.Proofs.ModuleTree

/-!
# The files of modules

A `Place` is where a file or a module stands in the sense of the language reference: the directory that the
file is in, and the directory in which its modules are looked up. `fileModule_eq_reference`: the file that a
scan takes for a module is that of the reference, unless a relative path stands directly in a file whose
modules are looked up in another directory than its own.
-/

namespace SlotBinding.Scan

open Syntax (Attribute Item ModuleDecl SourceFile)
open Files (Path Tree)

variable {t : Tree} {root : Path} {c : ModuleContext}

/-- Modules given with their content, the outermost first, lead from items to items of the same file.
Modules for tests are passed by. -/
inductive Inside : List Item → List ModuleDecl → List Item → Prop where
  | here (is : List Item) : Inside is [] is
  | deeper {is is' is'' : List Item} {d : ModuleDecl} {ds : List ModuleDecl}
      (among : .mod d (some is') ∈ is) (kept : isTestOnly d.attributes = false)
      (rest : Inside is' ds is'') : Inside is (d :: ds) is''

structure Place where
  /-- What the path that a module is declared with is seen from. -/
  base : Path
  /-- Where the files of modules are looked up by name. -/
  dir : Path

namespace Place

def single (dir : Path) : Place := ⟨dir, dir⟩

/-- The place of a file that has the name of its module. Its modules are looked up below that name. -/
def named (home : Path) (name : String) : Place := ⟨home, home.join name⟩

def inline (pl : Place) (d : ModuleDecl) : Place :=
  match filePath? d.attributes with
  | some p => single (pl.base.join p)
  | none => single (pl.dir.join (plainName d.name))

def file? (t : Tree) (pl : Place) (d : ModuleDecl) : Option (Path × Place) :=
  match filePath? d.attributes with
  | some p => some (pl.base.join p, single (Path.parent (pl.base.join p)))
  | none =>
    let name := plainName d.name
    let flat := pl.dir.join (name ++ ".rs")
    let nested := (pl.dir.join name).join "mod.rs"
    if t.isFile flat then some (flat, named pl.dir name)
    else if t.isFile nested then some (nested, single (pl.dir.join name))
    else none

/-- The module is declared without a path, or with one that leads to the same file from both directories
of the place. -/
def Settles (pl : Place) (d : ModuleDecl) : Prop :=
  pl.base = pl.dir ∨ ∀ p, filePath? d.attributes = some p → Path.isAbsolute p = true

theorem join_of_isAbsolute {p : Path} (absolute : Path.isAbsolute p = true) (base : Path) :
    Path.join base p = p := by
  simp [Path.join, absolute]

theorem base_join {pl : Place} {d : ModuleDecl} (settles : pl.Settles d) {p : Path}
    (path : filePath? d.attributes = some p) : pl.base.join p = pl.dir.join p := by
  rcases settles with same | absolute
  · rw [same]
  · rw [join_of_isAbsolute (absolute p path), join_of_isAbsolute (absolute p path)]

theorem inline_single_dir {pl : Place} {d : ModuleDecl} (settles : pl.Settles d) :
    (single pl.dir).inline d = pl.inline d := by
  unfold inline
  cases path : filePath? d.attributes with
  | none => rfl
  | some p =>
    dsimp only [single]
    rw [base_join settles path]

theorem file?_single_dir {pl : Place} {d : ModuleDecl} (settles : pl.Settles d) :
    (single pl.dir).file? t d = pl.file? t d := by
  unfold file?
  cases path : filePath? d.attributes with
  | none => rfl
  | some p =>
    dsimp only [single]
    rw [base_join settles path]

theorem inline_eq_single (pl : Place) (d : ModuleDecl) : pl.inline d = single (pl.inline d).dir := by
  unfold inline
  split <;> rfl

end Place

theorem dir_inlineContext (c : ModuleContext) (d : ModuleDecl) :
    (inlineContext c d).dir = ((Place.single c.dir).inline d).dir := by
  unfold inlineContext Place.inline
  cases filePath? d.attributes <;> rfl

/-- A scan sees everything from the directory in which it looks modules up. -/
theorem moduleFile?_eq_file? (t : Tree) (c : ModuleContext) (d : ModuleDecl) :
    moduleFile? t c d =
      ((Place.single c.dir).file? t d).map fun r => (r.1, { c.child d with dir := r.2.dir }) := by
  unfold moduleFile? Place.file?
  cases filePath? d.attributes with
  | some p => rfl
  | none =>
    dsimp only [candidates, Place.single]
    split
    · rfl
    · split <;> rfl

theorem foldl_inline_single (ds : List ModuleDecl) (c : ModuleContext) :
    ds.foldl Place.inline (.single c.dir) = .single (ds.foldl inlineContext c).dir := by
  induction ds generalizing c with
  | nil => rfl
  | cons d rest ih =>
    rw [List.foldl_cons, List.foldl_cons, Place.inline_eq_single, ← dir_inlineContext]
    exact ih (inlineContext c d)

/-! ### Files of a crate -/

/-- The place of the file of a module by the way in which it was found. -/
def placeOf (c : ModuleContext) (d : ModuleDecl) (p : Path) : Place :=
  match filePath? d.attributes with
  | some _ => .single p.parent
  | none =>
    if p = (candidates c (plainName d.name)).1 then .named c.dir (plainName d.name)
    else .single (c.dir.join (plainName d.name))

/-- The scan of a crate comes to a file, reads it in a context and takes it apart. The place is that of the
file in the sense of the reference. -/
inductive Reads (t : Tree) (root : Path) : Place → ModuleContext → SourceFile → Prop where
  | root {f : SourceFile} (holds : Holds t root f) :
      Reads t root (.single root.parent) (fileContext root (rootContext root) f) f
  | module {pl : Place} {c inside : ModuleContext} {f g : SourceFile} {ds : List ModuleDecl}
      {is : List Item} {d : ModuleDecl} {p : Path} (outer : Reads t root pl c f)
      (way : Inside f.items ds is) (among : .mod d none ∈ is) (kept : isTestOnly d.attributes = false)
      (found : moduleFile? t (ds.foldl inlineContext c) d = some (p, inside)) (holds : Holds t p g) :
      Reads t root (placeOf (ds.foldl inlineContext c) d p) (fileContext p inside g) g

theorem dir_placeOf {d : ModuleDecl} {p : Path} {inside : ModuleContext}
    (found : moduleFile? t c d = some (p, inside)) : (placeOf c d p).dir = inside.dir := by
  unfold moduleFile? at found
  unfold placeOf
  cases path : filePath? d.attributes with
  | some q =>
    rw [path] at found
    cases found
    rfl
  | none =>
    rw [path] at found
    -- Wherever the file was found, its modules are looked up below the name of the module.
    have below : inside = c.child d := by
      dsimp only at found
      split at found
      · exact (Prod.mk.inj (Option.some.inj found)).2.symm
      · split at found
        · exact (Prod.mk.inj (Option.some.inj found)).2.symm
        · cases found
    rw [below]
    dsimp only
    split <;> rfl

theorem dir_of_reads {pl : Place} {f : SourceFile} (reads : Reads t root pl c f) : pl.dir = c.dir := by
  cases reads with
  | root holds => rfl
  | @module _ _ inside _ _ ds _ d p outer way among kept found holds =>
    have same : (placeOf (ds.foldl inlineContext _) d p).dir = inside.dir := dir_placeOf found
    exact same

theorem named_of_base_ne {pl : Place} {f : SourceFile} (reads : Reads t root pl c f)
    (apart : pl.base ≠ pl.dir) : ∃ name, pl = .named pl.base name := by
  cases reads with
  | root holds => exact absurd rfl apart
  | @module _ _ _ _ _ _ _ d p outer way among kept found holds =>
    unfold placeOf at apart ⊢
    split
    · rename_i path
      rw [path] at apart
      exact absurd rfl apart
    · rename_i path
      simp only [path] at apart
      split
      · exact ⟨_, rfl⟩
      · rename_i nested
        rw [if_neg nested] at apart
        exact absurd rfl apart

theorem items_of_inside {crateName : String} {file : FileScan} {is is' : List Item} {ds : List ModuleDecl}
    (way : Inside is ds is') {out : ScanOutput} (scanned : items crateName t file c is = some out) :
    ∃ part, items crateName t file (ds.foldl inlineContext c) is' = some part ∧ Part part out := by
  induction way generalizing c out with
  | here is => exact ⟨out, scanned, fun _ h => h, fun _ h => h⟩
  | deeper among kept rest ih =>
    obtain ⟨around, scannedAround, within⟩ := inline_of_mem scanned among kept
    obtain ⟨part, scannedPart, inside⟩ := ih scannedAround
    exact ⟨part, scannedPart, inside.trans within⟩

theorem file_of_reads {crateName : String} {n : Nat} {out : ScanOutput}
    (scanned : Scan.file crateName t n root (rootContext root) = some out) {pl : Place} {f : SourceFile}
    (reads : Reads t root pl c f) :
    ∃ m outer part, Scan.file crateName t m c.file outer = some part ∧ c = fileContext c.file outer f ∧
      Holds t c.file f ∧ Part part out := by
  induction reads with
  | root holds => exact ⟨n, rootContext root, out, scanned, rfl, holds, fun _ h => h, fun _ h => h⟩
  | @module _ c inside f _ _ _ _ p _ way among kept found holds ih =>
    obtain ⟨m, outer, whole, scannedFile, context, holdsFile, within⟩ := ih
    cases m with
    | zero => cases scannedFile
    | succ m =>
      obtain ⟨own, scannedOwn, rfl⟩ := items_of_file holdsFile scannedFile
      rw [← context] at scannedOwn
      obtain ⟨around, scannedAround, partAround⟩ := items_of_inside way scannedOwn
      obtain ⟨part, scannedPart, partModule⟩ := fileModule_of_mem scannedAround among kept
      rw [fileModule_eq, found] at scannedPart
      exact ⟨m, inside, part, scannedPart, rfl, holds,
        (partModule.trans partAround).trans ((part_right _ own).trans within)⟩

theorem mem_files_of_reads {levels : Nat} {crateName : String} {out : ScanOutput}
    (scanned : scanCrate levels t crateName root = some out) {pl : Place} {f : SourceFile}
    (reads : Reads t root pl c f) : c.file ∈ out.files := by
  obtain ⟨m, outer, part, scannedFile, _, holds, within⟩ := file_of_reads scanned reads
  cases m with
  | zero => cases scannedFile
  | succ m =>
    obtain ⟨own, _, rfl⟩ := items_of_file holds scannedFile
    exact within.2 _ (List.mem_append_left _ List.mem_cons_self)

/-- The scan of the file that is found in a place, or the report that there is none. -/
def scanAt (t : Tree) (file : FileScan) (c : ModuleContext) (d : ModuleDecl) (pl : Place) :
    Option ScanOutput :=
  match pl.file? t d with
  | some (p, inside) => file p { c.child d with dir := inside.dir }
  | none => some (notFound c d)

theorem fileModule_eq_scanAt (t : Tree) (file : FileScan) (c : ModuleContext) (d : ModuleDecl) :
    fileModule t file c d = scanAt t file c d (.single c.dir) := by
  rw [fileModule_eq, moduleFile?_eq_file?, scanAt]
  cases (Place.single c.dir).file? t d <;> rfl

/-- For every module without content that a scan of a crate meets, the outermost module around it in its
file, or the module itself where it stands directly in the file, decides which file is read. If it has no
path, or an absolute one, or if the file's modules are looked up in the file's own directory, then the file
is that of the reference. Otherwise the file has the name of its module, and a path is seen from below that
name and not from the directory that the file is in. -/
theorem fileModule_eq_reference {pl : Place} {f : SourceFile} (reads : Reads t root pl c f)
    (ds : List ModuleDecl) (d : ModuleDecl) (file : FileScan) :
    let c' := ds.foldl inlineContext c
    (pl.Settles (ds.headD d) →
      fileModule t file c' d = scanAt t file c' d (ds.foldl Place.inline pl)) ∧
    (¬pl.Settles (ds.headD d) → ∃ name, pl = .named pl.base name ∧
      fileModule t file c' d =
        scanAt t file c' d (ds.foldl Place.inline (.single (pl.base.join name)))) := by
  intro c'
  have looked : fileModule t file c' d = scanAt t file c' d (ds.foldl Place.inline (.single pl.dir)) := by
    rw [fileModule_eq_scanAt, dir_of_reads reads, foldl_inline_single]
  refine ⟨fun settles => ?_, fun unsettled => ?_⟩
  · rw [looked]
    cases ds with
    | nil =>
      have own : pl.Settles d := settles
      rw [List.foldl_nil, List.foldl_nil, scanAt, scanAt, Place.file?_single_dir own]
    | cons outermost rest =>
      have around : pl.Settles outermost := settles
      rw [List.foldl_cons, List.foldl_cons, Place.inline_single_dir around]
  · have apart : pl.base ≠ pl.dir := fun same => unsettled (Or.inl same)
    obtain ⟨name, named⟩ := named_of_base_ne reads apart
    have below : pl.dir = pl.base.join name := congrArg Place.dir named
    exact ⟨name, named, by rw [looked, below]⟩

/-! ### A file with the name of its module -/

/-- Whether the only item of the file is a module in a file of its own that passes a check. -/
def declares (check : ModuleDecl → Bool) (f : SourceFile) : Bool :=
  match f.items with
  | [.mod d none] => !isTestOnly d.attributes && check d
  | _ => false

theorem exists_of_declares {check : ModuleDecl → Bool} {f : SourceFile} (only : declares check f = true) :
    ∃ d, f.items = [.mod d none] ∧ isTestOnly d.attributes = false ∧ check d = true := by
  unfold declares at only
  split at only
  · rename_i d items
    simp only [Bool.and_eq_true, Bool.not_eq_true'] at only
    exact ⟨d, items, only⟩
  · cases only

theorem moduleFile?_named {d : ModuleDecl} (plain : filePath? d.attributes = none)
    (there : t.isFile (c.dir.join (plainName d.name ++ ".rs")) = true) :
    moduleFile? t c d = some (c.dir.join (plainName d.name ++ ".rs"), c.child d) := by
  rw [moduleFile?, plain]
  exact if_pos there

theorem reads_named {f g : SourceFile} (holdsRoot : Holds t root f) {name : String}
    (only : declares (fun d => filePath? d.attributes = none && plainName d.name = name) f = true)
    (there : t.isFile ((Path.parent root).join (name ++ ".rs")) = true)
    (holds : Holds t ((Path.parent root).join (name ++ ".rs")) g) :
    ∃ c, Reads t root (.named (Path.parent root) name) c g ∧ c.dir = (Path.parent root).join name := by
  obtain ⟨d, items, kept, plain⟩ := exists_of_declares only
  simp only [Bool.and_eq_true, decide_eq_true_eq] at plain
  obtain ⟨path, rfl⟩ := plain
  have found := moduleFile?_named (c := fileContext root (rootContext root) f) path there
  have among : .mod d none ∈ f.items := by simp [items]
  have reads := Reads.module (.root holdsRoot) (.here _) among kept found holds
  have place : placeOf (fileContext root (rootContext root) f) d
      ((Path.parent root).join (plainName d.name ++ ".rs")) = .named (Path.parent root) (plainName d.name) := by
    rw [placeOf, path]
    exact if_pos rfl
  rw [← place]
  exact ⟨_, reads, rfl⟩

/-- A module without a path in a file that has the name of its module. -/
theorem fileModule_in_named_file :
    let t := Tree.ofList
      [("src/lib.rs", .file (.text "pub mod a;")), ("src/a.rs", .file (.text "pub mod b;")),
        ("src/a/b.rs", .file (.text ""))]
    ∃ pl c f d, Reads t "src/lib.rs" pl c f ∧ .mod d none ∈ f.items ∧ pl.base ≠ pl.dir ∧ pl.Settles d ∧
      ∀ file : FileScan,
        fileModule t file c d = file "src/a/b.rs" { c.child d with dir := "src/a/b" } := by
  intro t
  have rootFile : (t.read "src/lib.rs").toOption.any (fun text =>
      (Grammar.sourceFile text).toOption.any
        (declares fun d => filePath? d.attributes = none && plainName d.name = "a")) = true := by
    decide +kernel
  have file : (t.read "src/a.rs").toOption.any (fun text =>
      (Grammar.sourceFile text).toOption.any
        (declares fun d => filePath? d.attributes = none && plainName d.name = "b")) = true := by
    decide +kernel
  obtain ⟨f, holdsRoot, only⟩ := exists_holds rootFile
  obtain ⟨g, holds, declared⟩ := exists_holds file
  obtain ⟨d, items, _, plain⟩ := exists_of_declares declared
  simp only [Bool.and_eq_true, decide_eq_true_eq] at plain
  obtain ⟨path, name⟩ := plain
  obtain ⟨c, reads, dir⟩ := reads_named holdsRoot only (by decide +kernel) holds
  have settles : (Place.named (Path.parent "src/lib.rs") "a").Settles d := .inr (by simp [path])
  refine ⟨_, c, g, d, reads, by simp [items], by decide +kernel, settles, fun scanFile => ?_⟩
  have looked : fileModule t scanFile c d =
      scanAt t scanFile c d (.named (Path.parent "src/lib.rs") "a") :=
    (fileModule_eq_reference reads [] d scanFile).1 settles
  have there : ((Place.named (Path.parent "src/lib.rs") "a").file? t d).map (fun r => (r.1, r.2.dir)) =
      some ("src/a/b.rs", "src/a/b") := by
    simp only [Place.file?, path, name]
    decide +kernel
  obtain ⟨⟨p, inside⟩, found, named⟩ := Option.map_eq_some_iff.mp there
  obtain ⟨rfl, below⟩ := Prod.mk.inj named
  rw [looked, scanAt, found, ← below]

/-- A module with a path in a file that has the name of its module: the reference reads `src/foo.rs`, which
is there, and the scan looks for `src/a/foo.rs`. -/
theorem path_in_named_file_misread :
    let t := Tree.ofList
      [("src/lib.rs", .file (.text "pub mod a;")),
        ("src/a.rs", .file (.text "#[path = \"foo.rs\"] pub mod b;")),
        ("src/foo.rs", .file (.text "pub struct H \x7b #[bind(1)] pub x: L \x7d"))]
    ∃ out, scanCrate 3 t "app" "src/lib.rs" = some out ∧ out.sites.isEmpty ∧
      out.files = ["src/lib.rs", "src/a.rs"] ∧
      ∃ pl c f d, Reads t "src/lib.rs" pl c f ∧ .mod d none ∈ f.items ∧
        (pl.file? t d).map (·.1) = some "src/foo.rs" ∧ t.isFile "src/foo.rs" ∧
        (moduleFile? t c d).map (·.1) = some "src/a/foo.rs" := by
  intro t
  have scanned : (scanCrate 3 t "app" "src/lib.rs").any (fun out =>
      out.sites.isEmpty && out.files = ["src/lib.rs", "src/a.rs"]) = true := by
    decide +kernel
  have rootFile : (t.read "src/lib.rs").toOption.any (fun text =>
      (Grammar.sourceFile text).toOption.any fun f =>
        declares (fun d => filePath? d.attributes = none && plainName d.name = "a") f) = true := by
    decide +kernel
  have file : (t.read "src/a.rs").toOption.any (fun text =>
      (Grammar.sourceFile text).toOption.any fun f =>
        declares (fun d => filePath? d.attributes = some "foo.rs") f) = true := by
    decide +kernel
  obtain ⟨f, holdsRoot, only⟩ := exists_holds rootFile
  obtain ⟨g, holds, declared⟩ := exists_holds file
  obtain ⟨d, items, _, path⟩ := exists_of_declares declared
  have path : filePath? d.attributes = some "foo.rs" := of_decide_eq_true path
  obtain ⟨c, reads, dir⟩ := reads_named holdsRoot only (by decide +kernel) holds
  obtain ⟨out, found, checks⟩ := (Option.any_eq_true _ _).mp scanned
  obtain ⟨empty, files⟩ := Bool.and_eq_true_iff.mp checks
  refine ⟨out, found, empty, of_decide_eq_true files, _, c, g, d, reads, by simp [items], ?_, ?_, ?_⟩
  · simp only [Place.file?, path]
    change some ((Path.parent "src/lib.rs").join "foo.rs") = some "src/foo.rs"
    decide +kernel
  · decide +kernel
  · simp only [moduleFile?, path, dir]
    change some (((Path.parent "src/lib.rs").join "a").join "foo.rs") = some "src/a/foo.rs"
    decide +kernel

end SlotBinding.Scan
