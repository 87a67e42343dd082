import SlotBinding.Proofs.Results
import SlotBinding.Scan.Crate

/-!
# The modules of a crate

`Within` says how modules lead from some items to others, each through its content or through a file of
its own. `scanCrate_sound` and `scanCrate_complete`: the sites of a scan are those on the items that such
ways lead to.
-/

namespace SlotBinding.Scan

open Syntax (Attribute Item ModuleDecl SourceFile)
open Files (Path Tree)

variable {crateName : String} {t : Tree} {file : FileScan} {c : ModuleContext}

def moduleFile? (t : Tree) (c : ModuleContext) (d : ModuleDecl) : Option (Path × ModuleContext) :=
  match filePath? d.attributes with
  | some p => some (c.dir.join p, { c.child d with dir := Path.parent (c.dir.join p) })
  | none =>
    let (flat, nested) := candidates c (plainName d.name)
    if t.isFile flat then some (flat, c.child d)
    else if t.isFile nested then some (nested, c.child d)
    else none

theorem fileModule_eq (t : Tree) (file : FileScan) (c : ModuleContext) (d : ModuleDecl) :
    fileModule t file c d =
      match moduleFile? t c d with
      | some (p, inside) => file p inside
      | none => some (notFound c d) := by
  unfold fileModule moduleFile?
  cases filePath? d.attributes with
  | some p => rfl
  | none =>
    dsimp only
    split
    · rfl
    · split <;> rfl

def fileContext (p : Path) (c : ModuleContext) (f : SourceFile) : ModuleContext :=
  { c with file := p, cfg := c.cfg ++ cfgAttributes f.attributes }

def Holds (t : Tree) (p : Path) (f : SourceFile) : Prop :=
  ∃ text, t.read p = .ok text ∧ Grammar.sourceFile text = .ok f

theorem exists_holds {p : Path} {check : SourceFile → Bool}
    (passes : (t.read p).toOption.any (fun text => (Grammar.sourceFile text).toOption.any check) = true) :
    ∃ f, Holds t p f ∧ check f = true := by
  obtain ⟨text, read, rest⟩ := exists_ok_of_any passes
  obtain ⟨f, parsed, checked⟩ := exists_ok_of_any rest
  exact ⟨f, ⟨text, read, parsed⟩, checked⟩

structure Level where
  decl : ModuleDecl
  /-- The attributes at the front of the module's file, if it has one. -/
  inner : List Attribute

/-- The conditions on a module, those of its file behind those of its declaration. -/
def Level.conditions (l : Level) : List Attribute :=
  cfgAttributes l.decl.attributes ++ cfgAttributes l.inner

/-- A module leads to its items, which are scanned in a context. -/
inductive Opens (t : Tree) (c : ModuleContext) :
    Level → Option (List Item) → ModuleContext → List Item → Prop where
  | inline (d : ModuleDecl) (is : List Item) : Opens t c ⟨d, []⟩ (some is) (inlineContext c d) is
  | file {d : ModuleDecl} {p : Path} {inside : ModuleContext} {f : SourceFile}
      (found : moduleFile? t c d = some (p, inside)) (holds : Holds t p f) :
      Opens t c ⟨d, f.attributes⟩ none (fileContext p inside f) f.items

/-- Some modules, the outermost first, lead from items to items. Modules for tests are passed by. -/
inductive Within (t : Tree) :
    ModuleContext → List Item → List Level → ModuleContext → List Item → Prop where
  | here (c : ModuleContext) (is : List Item) : Within t c is [] c is
  | inside {c c' c'' : ModuleContext} {is is' is'' : List Item} {l : Level} {levels : List Level}
      {content : Option (List Item)} (among : .mod l.decl content ∈ is)
      (kept : isTestOnly l.decl.attributes = false) (opens : Opens t c l content c' is')
      (deeper : Within t c' is' levels c'' is'') : Within t c is (l :: levels) c'' is''

theorem cfg_inlineContext (c : ModuleContext) (d : ModuleDecl) :
    (inlineContext c d).cfg = c.cfg ++ cfgAttributes d.attributes := by
  unfold inlineContext
  split <;> rfl

/-- The context in a file of its own differs from that of the module in the directory alone. -/
theorem inside_of_moduleFile? {d : ModuleDecl} {p : Path} {inside : ModuleContext}
    (found : moduleFile? t c d = some (p, inside)) : inside = { c.child d with dir := inside.dir } := by
  unfold moduleFile? at found
  split at found
  · cases found
    rfl
  · dsimp only at found
    split at found
    · cases found
      rfl
    · split at found
      · cases found
        rfl
      · cases found

theorem cfg_of_moduleFile? {d : ModuleDecl} {p : Path} {inside : ModuleContext}
    (found : moduleFile? t c d = some (p, inside)) :
    inside.cfg = c.cfg ++ cfgAttributes d.attributes := by
  rw [inside_of_moduleFile? found]
  rfl

theorem cfg_opens {l : Level} {content : Option (List Item)} {c' : ModuleContext} {is : List Item}
    (opens : Opens t c l content c' is) : c'.cfg = c.cfg ++ l.conditions := by
  cases opens with
  | inline d is => simp [cfg_inlineContext, Level.conditions, cfgAttributes]
  | file found holds =>
    simp [fileContext, cfg_of_moduleFile? found, Level.conditions, List.append_assoc]

/-- The conditions of a context are those of the modules that lead to it. -/
theorem cfg_within {is is' : List Item} {levels : List Level} {c' : ModuleContext}
    (way : Within t c is levels c' is') : c'.cfg = c.cfg ++ levels.flatMap (·.conditions) := by
  induction way with
  | here => simp
  | inside among kept opens deeper ih =>
    rw [ih, cfg_opens opens, List.flatMap_cons, List.append_assoc]

theorem path_inlineContext (c : ModuleContext) (d : ModuleDecl) :
    (inlineContext c d).path = c.path ++ [plainName d.name] := by
  unfold inlineContext
  split <;> rfl

theorem path_of_moduleFile? {d : ModuleDecl} {p : Path} {inside : ModuleContext}
    (found : moduleFile? t c d = some (p, inside)) :
    inside.path = c.path ++ [plainName d.name] := by
  rw [inside_of_moduleFile? found]
  rfl

theorem path_within {is is' : List Item} {levels : List Level} {c' : ModuleContext}
    (way : Within t c is levels c' is') :
    c'.path = c.path ++ levels.map fun l => plainName l.decl.name := by
  induction way with
  | here => simp
  | inside among kept opens deeper ih =>
    rw [ih]
    cases opens with
    | inline d is => simp [path_inlineContext]
    | file found holds => simp [fileContext, path_of_moduleFile? found]

/-! ### Sites -/

def Marks (crateName : String) (t : Tree) (c : ModuleContext) (is : List Item) (site : Site) : Prop :=
  ∃ levels c' is' i, Within t c is levels c' is' ∧ i ∈ is' ∧ isTestOnly i.attributes = false ∧
    site ∈ itemSites crateName c' i

def MarksFile (crateName : String) (t : Tree) (p : Path) (c : ModuleContext) (site : Site) : Prop :=
  ∃ f, Holds t p f ∧ Marks crateName t (fileContext p c f) f.items site

def Sound (crateName : String) (t : Tree) (file : FileScan) : Prop :=
  ∀ p c out, file p c = some out → ∀ site ∈ out.sites, MarksFile crateName t p c site

theorem marks_of_opens {is is' : List Item} {l : Level} {content : Option (List Item)}
    {c' : ModuleContext} {site : Site} (among : .mod l.decl content ∈ is)
    (kept : isTestOnly l.decl.attributes = false) (opens : Opens t c l content c' is')
    (marks : Marks crateName t c' is' site) : Marks crateName t c is site := by
  obtain ⟨levels, c'', is'', i, way, rest⟩ := marks
  exact ⟨l :: levels, c'', is'', i, .inside among kept opens way, rest⟩

theorem marks_here {is : List Item} {i : Item} {site : Site} (among : i ∈ is)
    (kept : isTestOnly i.attributes = false) (own : site ∈ itemSites crateName c i) :
    Marks crateName t c is site :=
  ⟨[], c, is, i, .here c is, among, kept, own⟩

theorem fileModule_sound (sound : Sound crateName t file) {is : List Item} {d : ModuleDecl}
    (among : .mod d none ∈ is) (kept : isTestOnly d.attributes = false) {out : ScanOutput}
    (scanned : fileModule t file c d = some out) :
    ∀ site ∈ out.sites, Marks crateName t c is site := by
  intro site member
  rw [fileModule_eq] at scanned
  cases found : moduleFile? t c d with
  | none =>
    rw [found] at scanned
    obtain rfl := Option.some.inj scanned
    simp [notFound, ScanOutput.unavailable] at member
  | some place =>
    obtain ⟨p, inside⟩ := place
    rw [found] at scanned
    obtain ⟨f, holds, marks⟩ := sound p inside out scanned site member
    exact marks_of_opens (l := ⟨d, f.attributes⟩) among kept (.file found holds) marks

theorem item_mod (d : ModuleDecl) (content : Option (List Item)) :
    item crateName t file c (.mod d content) =
      if isTestOnly d.attributes then some {}
      else
        (match content with
          | some is => items crateName t file (inlineContext c d) is
          | none => fileModule t file c d).map
        (ScanOutput.ofSites (itemSites crateName c (.mod d content)) ++ ·) := by
  rw [item]
  split
  · rfl
  · cases content with
    | none => cases fileModule t file c d <;> rfl
    | some is =>
      dsimp only
      cases items crateName t file (inlineContext c d) is <;> rfl

theorem plain_sound {is : List Item} {i : Item} (among : i ∈ is) {out : ScanOutput}
    (scanned : (if isTestOnly i.attributes then some {} else some (.ofSites (itemSites crateName c i))) =
      some out) : ∀ site ∈ out.sites, Marks crateName t c is site := by
  intro site member
  split at scanned
  · obtain rfl := Option.some.inj scanned
    simp at member
  · rename_i kept
    obtain rfl := Option.some.inj scanned
    exact marks_here among (by simpa using kept) member

mutual

theorem item_sound (sound : Sound crateName t file) (c : ModuleContext) (i : Item) {is : List Item}
    (among : i ∈ is) {out : ScanOutput} (scanned : item crateName t file c i = some out) :
    ∀ site ∈ out.sites, Marks crateName t c is site := by
  cases i with
  | mod d content =>
    rw [item_mod] at scanned
    split at scanned
    · obtain rfl := Option.some.inj scanned
      simp
    · rename_i notTest
      have kept : isTestOnly d.attributes = false := by simpa using notTest
      obtain ⟨inside, scannedInside, rfl⟩ := Option.map_eq_some_iff.mp scanned
      intro site member
      -- The site is on the module itself or on something inside it.
      rcases List.mem_append.mp member with own | deeper
      · exact marks_here among kept own
      · cases content with
        | none => exact fileModule_sound sound among kept scannedInside site deeper
        | some is' =>
          exact marks_of_opens (l := ⟨d, []⟩) among kept (.inline d is')
            (items_sound sound (inlineContext c d) is' (fun _ h => h) scannedInside site deeper)
  | struct | enum | union | impl | trait | simple | shapeless =>
    rw [item] at scanned
    · exact plain_sound among scanned
    · rintro _ _ ⟨⟩

theorem items_sound (sound : Sound crateName t file) (c : ModuleContext) (is : List Item)
    {all : List Item} (among : ∀ i ∈ is, i ∈ all) {out : ScanOutput}
    (scanned : items crateName t file c is = some out) :
    ∀ site ∈ out.sites, Marks crateName t c all site := by
  cases is with
  | nil =>
    rw [items] at scanned
    obtain rfl := Option.some.inj scanned
    simp
  | cons i rest =>
    rw [items] at scanned
    obtain ⟨first, scannedFirst, others⟩ := Option.bind_eq_some_iff.mp scanned
    obtain ⟨later, scannedLater, sum⟩ := Option.bind_eq_some_iff.mp others
    obtain rfl := Option.some.inj sum
    intro site member
    rcases List.mem_append.mp member with here | behind
    · exact item_sound sound c i (among i List.mem_cons_self) scannedFirst site here
    · exact items_sound sound c rest (fun j h => among j (List.mem_cons_of_mem _ h)) scannedLater site
        behind

end

theorem file_sound (crateName : String) (t : Tree) (n : Nat) :
    Sound crateName t (Scan.file crateName t n) := by
  -- What lies in files of their own is scanned with one level less.
  induction n with
  | zero =>
    intro p c out scanned
    cases scanned
  | succ n ih =>
    intro p c out scanned site member
    rw [Scan.file] at scanned
    split at scanned
    · obtain rfl := Option.some.inj scanned
      simp [ScanOutput.unavailable] at member
    · rename_i text read
      obtain ⟨inside, scannedInside, rest⟩ := Option.bind_eq_some_iff.mp scanned
      obtain rfl := Option.some.inj rest
      have member : site ∈ inside.sites := member
      unfold source at scannedInside
      split at scannedInside
      · obtain rfl := Option.some.inj scannedInside
        simp [ScanOutput.unavailable] at member
      · rename_i f parsed
        exact ⟨f, ⟨text, read, parsed⟩,
          items_sound ih (fileContext p c f) f.items (fun _ h => h) scannedInside site member⟩

/-! ### Every item is scanned -/

def Complete (crateName : String) (t : Tree) (file : FileScan) : Prop :=
  ∀ p c out, file p c = some out → ∀ site, MarksFile crateName t p c site → site ∈ out.sites

def Part (part whole : ScanOutput) : Prop :=
  (∀ site ∈ part.sites, site ∈ whole.sites) ∧ ∀ p ∈ part.files, p ∈ whole.files

theorem Part.trans {a b c : ScanOutput} (first : Part a b) (second : Part b c) : Part a c :=
  ⟨fun site h => second.1 site (first.1 site h), fun p h => second.2 p (first.2 p h)⟩

theorem part_left (a b : ScanOutput) : Part a (a ++ b) :=
  ⟨fun _ h => List.mem_append_left _ h, fun _ h => List.mem_append_left _ h⟩

theorem part_right (a b : ScanOutput) : Part b (a ++ b) :=
  ⟨fun _ h => List.mem_append_right _ h, fun _ h => List.mem_append_right _ h⟩

theorem item_of_mem {is : List Item} {out : ScanOutput} (scanned : items crateName t file c is = some out)
    {i : Item} (among : i ∈ is) : ∃ part, item crateName t file c i = some part ∧ Part part out := by
  induction is generalizing out with
  | nil => cases among
  | cons j rest ih =>
    rw [items] at scanned
    obtain ⟨first, scannedFirst, others⟩ := Option.bind_eq_some_iff.mp scanned
    obtain ⟨later, scannedLater, sum⟩ := Option.bind_eq_some_iff.mp others
    obtain rfl := Option.some.inj sum
    rcases List.mem_cons.mp among with rfl | behind
    · exact ⟨first, scannedFirst, part_left first later⟩
    · obtain ⟨part, scannedPart, within⟩ := ih scannedLater behind
      exact ⟨part, scannedPart, within.trans (part_right first later)⟩

theorem inline_of_mem {is is' : List Item} {out : ScanOutput}
    (scanned : items crateName t file c is = some out) {d : ModuleDecl} (among : .mod d (some is') ∈ is)
    (kept : isTestOnly d.attributes = false) :
    ∃ part, items crateName t file (inlineContext c d) is' = some part ∧ Part part out := by
  obtain ⟨own, scannedOwn, within⟩ := item_of_mem scanned among
  rw [item_mod, kept] at scannedOwn
  obtain ⟨part, scannedPart, rfl⟩ := Option.map_eq_some_iff.mp scannedOwn
  exact ⟨part, scannedPart, (part_right _ part).trans within⟩

theorem fileModule_of_mem {is : List Item} {out : ScanOutput}
    (scanned : items crateName t file c is = some out) {d : ModuleDecl} (among : .mod d none ∈ is)
    (kept : isTestOnly d.attributes = false) :
    ∃ part, fileModule t file c d = some part ∧ Part part out := by
  obtain ⟨own, scannedOwn, within⟩ := item_of_mem scanned among
  rw [item_mod, kept] at scannedOwn
  obtain ⟨part, scannedPart, rfl⟩ := Option.map_eq_some_iff.mp scannedOwn
  exact ⟨part, scannedPart, (part_right _ part).trans within⟩

theorem itemSites_complete {i : Item} (kept : isTestOnly i.attributes = false) {out : ScanOutput}
    (scanned : item crateName t file c i = some out) :
    ∀ site ∈ itemSites crateName c i, site ∈ out.sites := by
  intro site own
  cases i with
  | mod d content =>
    have notTest : isTestOnly d.attributes = false := kept
    rw [item_mod, notTest] at scanned
    obtain ⟨inside, _, rfl⟩ := Option.map_eq_some_iff.mp scanned
    exact List.mem_append_left _ own
  | struct | enum | union | impl | trait | simple | shapeless =>
    rw [item, kept] at scanned
    · obtain rfl := Option.some.inj scanned
      exact own
    · rintro _ _ ⟨⟩

theorem items_complete (complete : Complete crateName t file) {is is' : List Item} {levels : List Level}
    {c' : ModuleContext} (way : Within t c is levels c' is') {i : Item} (among : i ∈ is')
    (kept : isTestOnly i.attributes = false) {site : Site} (own : site ∈ itemSites crateName c' i)
    {out : ScanOutput} (scanned : items crateName t file c is = some out) : site ∈ out.sites := by
  induction way generalizing out with
  | here c is =>
    obtain ⟨part, scannedPart, within⟩ := item_of_mem scanned among
    exact within.1 site (itemSites_complete kept scannedPart site own)
  | @inside c c' c'' is is' is'' l levels content here notTest opens deeper ih =>
    cases opens with
    | inline d is =>
      obtain ⟨part, scannedPart, within⟩ := inline_of_mem scanned here notTest
      exact within.1 site (ih among own scannedPart)
    | file found holds =>
      obtain ⟨part, scannedPart, within⟩ := fileModule_of_mem scanned here notTest
      rw [fileModule_eq, found] at scannedPart
      exact within.1 site (complete _ _ part scannedPart site
        ⟨_, holds, levels, c'', is'', i, deeper, among, kept, own⟩)

theorem items_of_file {n : Nat} {p : Path} {f : SourceFile} (holds : Holds t p f) {out : ScanOutput}
    (scanned : Scan.file crateName t (n + 1) p c = some out) :
    ∃ part, items crateName t (Scan.file crateName t n) (fileContext p c f) f.items = some part ∧
      out = { files := [p] } ++ part := by
  obtain ⟨text, read, parsed⟩ := holds
  rw [Scan.file, read] at scanned
  obtain ⟨part, scannedPart, rest⟩ := Option.bind_eq_some_iff.mp scanned
  rw [source, parsed] at scannedPart
  exact ⟨part, scannedPart, (Option.some.inj rest).symm⟩

theorem file_complete (crateName : String) (t : Tree) (n : Nat) :
    Complete crateName t (Scan.file crateName t n) := by
  induction n with
  | zero =>
    intro p c out scanned
    cases scanned
  | succ n ih =>
    intro p c out scanned site marks
    obtain ⟨f, holds, levels, c', is', i, way, among, kept, own⟩ := marks
    obtain ⟨inside, scannedInside, rfl⟩ := items_of_file holds scanned
    exact List.mem_append_right _ (items_complete ih way among kept own scannedInside)

end SlotBinding.Scan

namespace SlotBinding

open Files (Path Tree)

def rootContext (root : Path) : ModuleContext := { path := [], dir := root.parent, file := root }

/-- A scan of a crate finds only sites that the modules of its root file lead to. -/
theorem scanCrate_sound {levels : Nat} {t : Tree} {crateName : String} {root : Path} {out : ScanOutput}
    (scanned : scanCrate levels t crateName root = some out) :
    ∀ site ∈ out.sites,
      Scan.MarksFile (Scan.pathCrateName crateName) t root (rootContext root) site :=
  Scan.file_sound _ t levels root (rootContext root) out scanned

/-- A scan of a crate finds every site that the modules of its root file lead to. -/
theorem scanCrate_complete {levels : Nat} {t : Tree} {crateName : String} {root : Path} {out : ScanOutput}
    (scanned : scanCrate levels t crateName root = some out) {site : Site}
    (marks : Scan.MarksFile (Scan.pathCrateName crateName) t root (rootContext root) site) :
    site ∈ out.sites :=
  Scan.file_complete _ t levels root (rootContext root) out scanned site marks

end SlotBinding
