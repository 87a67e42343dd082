import SlotBinding.Proofs.EndlessScan
import SlotBinding.Proofs.HostPaths

/-!
# Where the paths of a scan come from

A scan comes from the root file of a crate to all files that it reads, each through a module of a file that it read
before. `mem_root_or_declares`: a character that stands in no name comes into the path of a file from the path of
the root or from a path that a module is declared with.
-/

namespace SlotBinding

open Files (Path Tree)

namespace Files.Path

variable {x : Char} {p base more : Path}

theorem not_mem_join (apart : x ≠ '/') (front : x ∉ base.toList) (behind : x ∉ more.toList) :
    x ∉ (join base more).toList := by
  unfold join
  split
  · exact behind
  · split <;> simp [front, behind, apart]

theorem mem_of_mem_splitSlash {cs part : List Char} (among : part ∈ splitSlash cs) (member : x ∈ part) :
    x ∈ cs := by
  fun_induction splitSlash cs generalizing part with
  | case1 => simp_all
  | case2 rest ih => grind
  | case3 c rest slash first more split ih => grind
  | case4 c rest slash split ih => grind

theorem not_mem_of_mem_parts (absent : x ∉ p.toList) {part : String} (among : part ∈ p.parts) :
    x ∉ part.toList := by
  obtain ⟨cs, piece, rfl⟩ := List.mem_map.mp among
  rw [String.toList_ofList]
  exact fun member => absent (mem_of_mem_splitSlash piece member)

theorem not_mem_ofParts (apart : x ≠ '/') {ps : List String} (absent : ∀ part ∈ ps, x ∉ part.toList) :
    x ∉ (ofParts ps).toList := by
  induction ps with
  | nil => simp [ofParts]
  | cons part rest ih =>
    obtain ⟨own, others⟩ := List.forall_mem_cons.mp absent
    cases rest with
    | nil => simpa [ofParts] using own
    | cons next more =>
      rw [ofParts, String.intercalate_cons_cons, String.toList_append, String.toList_append]
      simp only [List.mem_append, not_or]
      exact ⟨⟨own, by simpa using apart⟩, ih others⟩

theorem not_mem_parent (apart : x ≠ '/') (absent : x ∉ p.toList) : x ∉ (parent p).toList := by
  have parts : ∀ part ∈ trimmed p.parts.reverse, x ∉ part.toList := fun part among =>
    not_mem_of_mem_parts absent (List.mem_reverse.mp ((trimmed_suffix _).subset among))
  unfold parent parent?
  split
  · simp
  · split <;> simp
  · rename_i last above _ shape
    rw [shape] at parts
    split
    · simpa using apart
    · exact not_mem_ofParts apart fun part among =>
        parts part (List.mem_cons_of_mem _ ((trimmed_suffix above).subset (List.mem_reverse.mp among)))

end Files.Path

namespace Scan

open Syntax (Item ModuleDecl SourceFile)
open Unicode (isIdentifierContinue)

variable {t : Tree} {crateName : String} {root : Path}

/-! ### Ways to the files that are read -/

/-- The scan of some items reads a file in the scan of the file of one of their modules. -/
def ReadsThrough (t : Tree) (file : FileScan) (c : ModuleContext) (is : List Item) (q : Path) : Prop :=
  ∃ ds is' d p inside part, Inside is ds is' ∧ .mod d none ∈ is' ∧ isTestOnly d.attributes = false ∧
    moduleFile? t (ds.foldl inlineContext c) d = some (p, inside) ∧ file p inside = some part ∧ q ∈ part.files

section Items

variable {file : FileScan} {q : Path}

theorem ReadsThrough.mono {c : ModuleContext} {is js : List Item} (through : ReadsThrough t file c is q)
    (sub : ∀ i ∈ is, i ∈ js) : ReadsThrough t file c js q := by
  obtain ⟨ds, is', d, p, inside, part, way, among, rest⟩ := through
  obtain ⟨js', way, among⟩ := inside_mono sub d way among
  exact ⟨ds, js', d, p, inside, part, way, among, rest⟩

theorem readsThrough_of_fileModule {c : ModuleContext} {is : List Item} {d : ModuleDecl}
    (among : .mod d none ∈ is) (kept : isTestOnly d.attributes = false) {out : ScanOutput}
    (scanned : fileModule t file c d = some out) (listed : q ∈ out.files) : ReadsThrough t file c is q := by
  rw [fileModule_eq] at scanned
  cases found : moduleFile? t c d with
  | none =>
    rw [found] at scanned
    obtain rfl := Option.some.inj scanned
    cases listed
  | some r =>
    rw [found] at scanned
    exact ⟨[], is, d, r.1, r.2, out, .here is, among, kept, found, scanned, listed⟩

mutual

theorem readsThrough_of_item (c : ModuleContext) (i : Item) {out : ScanOutput}
    (scanned : item crateName t file c i = some out) (listed : q ∈ out.files) : ReadsThrough t file c [i] q := by
  cases i with
  | mod d content =>
    rw [item_mod] at scanned
    split at scanned
    · obtain rfl := Option.some.inj scanned
      cases listed
    · rename_i notTest
      have kept : isTestOnly d.attributes = false := by simpa using notTest
      obtain ⟨inner, scannedInner, rfl⟩ := Option.map_eq_some_iff.mp scanned
      have listed : q ∈ inner.files := listed
      cases content with
      | none => exact readsThrough_of_fileModule List.mem_cons_self kept scannedInner listed
      | some is =>
        obtain ⟨ds, is', e, p, inside, part, way, rest⟩ :=
          readsThrough_of_items (inlineContext c d) is scannedInner listed
        exact ⟨d :: ds, is', e, p, inside, part, .deeper List.mem_cons_self kept way, rest⟩
  | struct | enum | union | impl | trait | simple | shapeless =>
    rw [item] at scanned
    · split at scanned <;> (obtain rfl := Option.some.inj scanned; cases listed)
    · rintro _ _ ⟨⟩

theorem readsThrough_of_items (c : ModuleContext) (is : List Item) {out : ScanOutput}
    (scanned : items crateName t file c is = some out) (listed : q ∈ out.files) :
    ReadsThrough t file c is q := by
  cases is with
  | nil =>
    rw [items] at scanned
    obtain rfl := Option.some.inj scanned
    cases listed
  | cons i rest =>
    rw [items] at scanned
    obtain ⟨first, scannedFirst, others⟩ := Option.bind_eq_some_iff.mp scanned
    obtain ⟨later, scannedLater, sum⟩ := Option.bind_eq_some_iff.mp others
    obtain rfl := Option.some.inj sum
    rcases List.mem_append.mp listed with here | behind
    · exact (readsThrough_of_item c i scannedFirst here).mono (by simp)
    · exact (readsThrough_of_items c rest scannedLater behind).mono fun _ h => List.mem_cons_of_mem _ h

end

end Items

/-- The scan of a crate comes to a file in a context, whether the file can be read or not. -/
def ComesTo (t : Tree) (root p : Path) (c : ModuleContext) : Prop :=
  (p = root ∧ c = rootContext root) ∨
    ∃ pl outer f ds is d, Reads t root pl outer f ∧ Inside f.items ds is ∧ .mod d none ∈ is ∧
      isTestOnly d.attributes = false ∧ moduleFile? t (ds.foldl inlineContext outer) d = some (p, c)

theorem ComesTo.reads {p : Path} {c : ModuleContext} {f : SourceFile} (comes : ComesTo t root p c)
    (holds : Holds t p f) : ∃ pl, Reads t root pl (fileContext p c f) f := by
  rcases comes with ⟨rfl, rfl⟩ | ⟨pl, outer, g, ds, is, d, reads, way, among, kept, found⟩
  · exact ⟨_, .root holds⟩
  · exact ⟨_, .module reads way among kept found holds⟩

theorem comesTo_of_mem_files (n : Nat) {p q : Path} {c : ModuleContext} {out : ScanOutput}
    (scanned : Scan.file crateName t n p c = some out) (comes : ComesTo t root p c) (listed : q ∈ out.files) :
    ∃ c', ComesTo t root q c' := by
  -- On the levels of files. Each further one is read in a context of its own, so `comes` goes along.
  induction n generalizing p c out with
  | zero => cases scanned
  | succ n ih =>
    cases read : t.read p with
    | error e =>
      rw [Scan.file, read] at scanned
      obtain rfl := Option.some.inj scanned
      cases listed
    | ok text =>
      cases parsed : Grammar.sourceFile text with
      | error e =>
        rw [Scan.file, read] at scanned
        dsimp only at scanned
        rw [source, parsed] at scanned
        obtain rfl := Option.some.inj scanned
        obtain rfl := List.mem_singleton.mp listed
        exact ⟨c, comes⟩
      | ok f =>
        have holds : Holds t p f := ⟨text, read, parsed⟩
        obtain ⟨inner, scannedInner, rfl⟩ := items_of_file holds scanned
        rcases List.mem_cons.mp listed with rfl | deeper
        · exact ⟨c, comes⟩
        · obtain ⟨ds, is, d, p', inside, part, way, among, kept, found, scannedPart, listed⟩ :=
            readsThrough_of_items _ f.items scannedInner deeper
          obtain ⟨pl, reads⟩ := comes.reads holds
          exact ih scannedPart (.inr ⟨pl, _, f, ds, is, d, reads, way, among, kept, found⟩) listed

/-! ### Characters that stand in no name -/

/-- A module in a file, and not one for tests, is declared with a path that has the character. -/
def DeclaresPath (t : Tree) (x : Char) (q : Path) : Prop :=
  ∃ f ds is d content path, Holds t q f ∧ Inside f.items ds is ∧ .mod d content ∈ is ∧
    isTestOnly d.attributes = false ∧ filePath? d.attributes = some path ∧ x ∈ path.toList

structure Foreign (x : Char) : Prop where
  name : isIdentifierContinue x = false
  slash : x ≠ '/'
  dot : x ≠ '.'

theorem Foreign.not_mem {x : Char} (foreign : Foreign x) {cs : List Char}
    (plain : cs.all (fun c => isIdentifierContinue c || c == '/' || c == '.') = true) : x ∉ cs := by
  intro member
  have own := List.all_eq_true.mp plain x member
  simp [foreign.name, foreign.slash, foreign.dot] at own

/-- Neither the name of a module nor the path that it is declared with has the character. -/
def Lacks (x : Char) (d : ModuleDecl) : Prop :=
  x ∉ (plainName d.name).toList ∧ ∀ path, filePath? d.attributes = some path → x ∉ path.toList

variable {x : Char} {c : ModuleContext}

theorem not_mem_dir_inlineContext (foreign : Foreign x) {d : ModuleDecl} (lacks : Lacks x d)
    (dir : x ∉ c.dir.toList) :
    x ∉ (inlineContext c d).dir.toList := by
  unfold inlineContext
  split
  · rename_i path declared
    exact Path.not_mem_join foreign.slash dir (lacks.2 path declared)
  · exact Path.not_mem_join foreign.slash dir lacks.1

theorem not_mem_dir_foldl (foreign : Foreign x) {ds : List ModuleDecl} (lacks : ∀ d ∈ ds, Lacks x d)
    (dir : x ∉ c.dir.toList) : x ∉ (ds.foldl inlineContext c).dir.toList := by
  induction ds generalizing c with
  | nil => exact dir
  | cons d rest ih =>
    obtain ⟨own, others⟩ := List.forall_mem_cons.mp lacks
    exact ih others (not_mem_dir_inlineContext foreign own dir)

theorem not_mem_moduleFile? (foreign : Foreign x) {d : ModuleDecl} (lacks : Lacks x d) (dir : x ∉ c.dir.toList)
    {p : Path} {inside : ModuleContext} (found : moduleFile? t c d = some (p, inside)) :
    x ∉ p.toList ∧ x ∉ inside.dir.toList := by
  unfold moduleFile? at found
  split at found
  · rename_i path declared
    cases found
    have joined := Path.not_mem_join foreign.slash dir (lacks.2 path declared)
    exact ⟨joined, Path.not_mem_parent foreign.slash joined⟩
  · have below : x ∉ (c.child d).dir.toList := Path.not_mem_join foreign.slash dir lacks.1
    dsimp only [candidates] at found
    split at found
    · cases found
      refine ⟨Path.not_mem_join foreign.slash dir ?_, below⟩
      rw [String.toList_append, List.mem_append, not_or]
      exact ⟨lacks.1, foreign.not_mem (by decide +kernel)⟩
    · split at found
      · cases found
        exact ⟨Path.not_mem_join foreign.slash below (foreign.not_mem (by decide +kernel)), below⟩
      · cases found

theorem inside_of_mem {is is' : List Item} {ds : List ModuleDecl} (way : Inside is ds is') {d : ModuleDecl}
    (member : d ∈ ds) :
    ∃ ds' js content, Inside is ds' js ∧ .mod d content ∈ js ∧ isTestOnly d.attributes = false := by
  induction way with
  | here => cases member
  | @deeper is is' is'' e ds among kept rest ih =>
    rcases List.mem_cons.mp member with rfl | later
    · exact ⟨[], is, _, .here is, among, kept⟩
    · obtain ⟨ds', js, content, within, rest⟩ := ih later
      exact ⟨e :: ds', js, content, .deeper among kept within, rest⟩

/-- A module of a file that declares no path with the character has it neither in its path nor in its name. -/
theorem lacks_of_inside (foreign : Foreign x) {q : Path} {f : SourceFile} (holds : Holds t q f)
    (none : ¬DeclaresPath t x q) {ds : List ModuleDecl} {is : List Item} (way : Inside f.items ds is)
    {d : ModuleDecl} {content : Option (List Item)} (among : .mod d content ∈ is)
    (kept : isTestOnly d.attributes = false) : Lacks x d := by
  constructor
  · exact Unicode.not_mem_of_isWord foreign.name (worded_of_inside holds way among d (by simp))
  · exact fun path declared member => none ⟨f, ds, is, d, content, path, holds, way, among, kept, declared, member⟩

section Crate

variable {levels : Nat} {out : ScanOutput}

/-- The file of a module of a file that is read has the character in its path no more than what leads there. -/
theorem not_mem_of_reads (foreign : Foreign x) (scanned : scanCrate levels t crateName root = some out)
    (none : ∀ q ∈ out.files, ¬DeclaresPath t x q) {pl : Place} {f : SourceFile} (reads : Reads t root pl c f)
    (dir : x ∉ c.dir.toList) {ds : List ModuleDecl} {is : List Item} {d : ModuleDecl} {p : Path}
    {inside : ModuleContext} (way : Inside f.items ds is) (among : .mod d Option.none ∈ is)
    (kept : isTestOnly d.attributes = false)
    (found : moduleFile? t (ds.foldl inlineContext c) d = some (p, inside)) :
    x ∉ p.toList ∧ x ∉ inside.dir.toList := by
  obtain ⟨_, _, _, _, _, holds, _⟩ := file_of_reads scanned reads
  have declares := none c.file (mem_files_of_reads scanned reads)
  have around : ∀ e ∈ ds, Lacks x e := by
    intro e member
    obtain ⟨_, _, _, within, amongE, keptE⟩ := inside_of_mem way member
    exact lacks_of_inside foreign holds declares within amongE keptE
  exact not_mem_moduleFile? foreign (lacks_of_inside foreign holds declares way among kept)
    (not_mem_dir_foldl foreign around dir) found

theorem not_mem_dir_of_reads (foreign : Foreign x) (scanned : scanCrate levels t crateName root = some out)
    (start : x ∉ root.toList) (none : ∀ q ∈ out.files, ¬DeclaresPath t x q) {pl : Place} {f : SourceFile}
    (reads : Reads t root pl c f) : x ∉ c.dir.toList := by
  induction reads with
  | root holds => exact Path.not_mem_parent foreign.slash start
  | module outer way among kept found holds ih =>
    exact (not_mem_of_reads foreign scanned none outer ih way among kept found).2

/-- A character that stands in no name comes into the path of a file that is read from the path of the root, or
from one that a module of a file that is read is declared with. -/
theorem mem_root_or_declares (foreign : Foreign x) (scanned : scanCrate levels t crateName root = some out)
    {p : Path} (listed : p ∈ out.files) (member : x ∈ p.toList) :
    x ∈ root.toList ∨ ∃ q ∈ out.files, DeclaresPath t x q := by
  by_contra neither
  rw [not_or] at neither
  obtain ⟨start, nowhere⟩ := neither
  have none : ∀ q ∈ out.files, ¬DeclaresPath t x q := fun q among declares => nowhere ⟨q, among, declares⟩
  obtain ⟨c, ⟨rfl, -⟩ | ⟨pl, outer, f, ds, is, d, reads, way, among, kept, found⟩⟩ :=
    comesTo_of_mem_files levels scanned (.inl ⟨rfl, rfl⟩) listed
  · exact start member
  · have dir := not_mem_dir_of_reads foreign scanned start none reads
    exact (not_mem_of_reads foreign scanned none reads dir way among kept found).1 member

end Crate

end Scan

end SlotBinding
