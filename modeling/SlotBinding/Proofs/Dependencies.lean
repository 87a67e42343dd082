import SlotBinding.Proofs.Collection.InsertionMap
import SlotBinding.Proofs.EndlessScan

/-!
# What a scan depends on

`scanCrate_depends`: a scan of a crate depends on the files that it lists and on those that it reports as
unreadable, and on no other file. The latter are not listed.
-/

namespace SlotBinding

open Syntax (Item)
open Files (Entry Content Fault Path Tree)

namespace Files.Tree

def atFile : Except Fault Place → Bool
  | .ok (.file _ _) => true
  | _ => false

theorem isFile_eq (t : Tree) (p : Path) : t.isFile p = atFile (t.find p) := by
  unfold isFile atFile
  cases t.find p with
  | error f => rfl
  | ok place => cases place <;> rfl

/-- Two trees have files and directories at the same ends. -/
def SameOutline (t u : Tree) : Prop :=
  ∀ trail, t.entry? trail = u.entry? trail ∨
    ∃ a b, t.entry? trail = some (.file a) ∧ u.entry? trail = some (.file b)

theorem atFile_walk {t u : Tree} (same : SameOutline t u) (parts : List String) (trail : Trail) :
    atFile (u.walk trail parts) = atFile (t.walk trail parts) := by
  induction parts generalizing trail with
  | nil => rfl
  | cons p rest ih =>
    rw [walk, walk]
    split
    · exact ih trail
    · split
      · exact ih trail.dropLast
      · split
        · rfl
        · dsimp only
          obtain equal | ⟨a, b, before, after⟩ := same (trail ++ [p])
          · rw [← equal]
            split
            · exact ih (trail ++ [p])
            · split <;> rfl
            · rfl
          · rw [before, after]
            dsimp only
            split <;> rfl

theorem isFile_of_sameOutline {t u : Tree} (same : SameOutline t u) (p : Path) :
    u.isFile p = t.isFile p := by
  rw [isFile_eq, isFile_eq]
  unfold find follow
  split
  · rfl
  · split
    · rfl
    · split
      · rfl
      · exact atFile_walk same p.parts _

theorem isFile_set {t : Tree} {trail : Trail} {a b : Content} (there : t.entry? trail = some (.file a))
    (p : Path) : (t.set trail (.file b)).isFile p = t.isFile p := by
  apply isFile_of_sameOutline
  have file : ¬(trail = [] ∨ trail = working) := by
    intro directory
    have known : t.entry? trail = some .directory := by simp [ entry?, directory]
    rw [known] at there
    cases there
  intro other
  by_cases same : other = trail
  · subst same
    refine Or.inr ⟨a, b, there, ?_⟩
    simp [ entry?, file, set]
  · refine Or.inl ?_
    simp only [ entry?, set, InsertionMap.get?_insert_of_ne _ same]

end Files.Tree

/-! ### What is looked at -/

namespace ScanOutput

def unread (p : Path) (e : Fault) : Diagnostic :=
  .error .sourceUnavailable (some (.ofFile p)) ("failed to read: " ++ e.message)

def Unread (out : ScanOutput) (p : Path) : Prop := ∃ e, unread p e ∈ out.diagnostics

/-- The file is listed, or it is reported as one that cannot be read. -/
def LooksAt (out : ScanOutput) (p : Path) : Prop := p ∈ out.files ∨ out.Unread p

theorem looksAt_append (a b : ScanOutput) (p : Path) :
    (a ++ b).LooksAt p ↔ a.LooksAt p ∨ b.LooksAt p := by
  have files : (a ++ b).files = a.files ++ b.files := rfl
  have diagnostics : (a ++ b).diagnostics = a.diagnostics ++ b.diagnostics := rfl
  simp only [LooksAt, Unread, files, diagnostics, List.mem_append, exists_or]
  tauto

theorem unread_inj {p q : Path} {e f : Fault} (same : unread p e = unread q f) : p = q := by
  unfold unread Diagnostic.error at same
  injection same with _ _ place
  injection place with place
  injection place

/-- A message about a file is one about reading only if it begins so. -/
theorem unread_ne {p : Path} {e : Fault} {place : Location} {message : String}
    (other : "failed to read: ".toList.isPrefixOf message.toList = false) :
    unread p e ≠ .error .sourceUnavailable (some place) message := by
  intro same
  unfold unread Diagnostic.error at same
  injection same with _ _ _ text
  have front : "failed to read: ".toList.isPrefixOf message.toList = true := by
    rw [← text, String.toList_append, List.isPrefixOf_iff_prefix]
    exact List.prefix_append _ _
  rw [other] at front
  cases front

end ScanOutput

namespace Scan

variable {crateName : String} {t : Tree}

/-- What a scan lists has a text, and what it reports as unreadable has none. -/
def Tells (t : Tree) (out : ScanOutput) : Prop :=
  (∀ p ∈ out.files, ∃ text, t.read p = .ok text) ∧ ∀ p, out.Unread p → ∃ e, t.read p = .error e

theorem tells_of_quiet {out : ScanOutput} (files : out.files = [])
    (quiet : ∀ p e, ScanOutput.unread p e ∉ out.diagnostics) : Tells t out := by
  refine ⟨?_, ?_⟩
  · rw [files]
    simp
  · rintro p ⟨e, reported⟩
    exact absurd reported (quiet p e)

theorem tells_ofSites (sites : List Site) : Tells t (.ofSites sites) :=
  tells_of_quiet rfl fun _ _ => List.not_mem_nil

theorem tells_unavailable {place : Location} {message : String}
    (other : "failed to read: ".toList.isPrefixOf message.toList = false) :
    Tells t (.unavailable place message) := by
  refine tells_of_quiet rfl fun p e reported => ?_
  exact ScanOutput.unread_ne other (List.mem_singleton.mp reported)

theorem tells_unread {p : Path} {e : Fault} (read : t.read p = .error e) :
    Tells t { diagnostics := [ScanOutput.unread p e] } := by
  refine ⟨by simp, ?_⟩
  rintro q ⟨f, reported⟩
  obtain rfl := ScanOutput.unread_inj (List.mem_singleton.mp reported)
  exact ⟨e, read⟩

theorem Tells.append {a b : ScanOutput} (first : Tells t a) (second : Tells t b) : Tells t (a ++ b) := by
  refine ⟨?_, ?_⟩
  · intro p listed
    rcases List.mem_append.mp listed with here | behind
    · exact first.1 p here
    · exact second.1 p behind
  · rintro p ⟨e, reported⟩
    rcases List.mem_append.mp reported with here | behind
    · exact first.2 p ⟨e, here⟩
    · exact second.2 p ⟨e, behind⟩

/-! ### Scans of files -/

section Items

variable {P : ScanOutput → Prop} {file : FileScan}

mutual

theorem item_forall (own : ∀ sites, P (.ofSites sites)) (joins : ∀ {a b}, P a → P b → P (a ++ b))
    (missing : ∀ c d, P (notFound c d)) (files : ∀ p c out, file p c = some out → P out)
    (c : ModuleContext) (i : Item) {out : ScanOutput} (scanned : item crateName t file c i = some out) :
    P out := by
  cases i with
  | mod d content =>
    rw [item_mod] at scanned
    split at scanned
    · obtain rfl := Option.some.inj scanned
      exact own []
    · obtain ⟨inside, scannedInside, rfl⟩ := Option.map_eq_some_iff.mp scanned
      refine joins (own _) ?_
      cases content with
      | none =>
        change fileModule t file c d = _ at scannedInside
        rw [fileModule_eq] at scannedInside
        split at scannedInside
        · exact files _ _ inside scannedInside
        · obtain rfl := Option.some.inj scannedInside
          exact missing c d
      | some is => exact items_forall own joins missing files (inlineContext c d) is scannedInside
  | struct | enum | union | impl | trait | simple | shapeless =>
    rw [item] at scanned
    · split at scanned
      · obtain rfl := Option.some.inj scanned
        exact own []
      · obtain rfl := Option.some.inj scanned
        exact own _
    · rintro _ _ ⟨⟩

theorem items_forall (own : ∀ sites, P (.ofSites sites)) (joins : ∀ {a b}, P a → P b → P (a ++ b))
    (missing : ∀ c d, P (notFound c d)) (files : ∀ p c out, file p c = some out → P out)
    (c : ModuleContext) (is : List Item) {out : ScanOutput}
    (scanned : items crateName t file c is = some out) : P out := by
  cases is with
  | nil =>
    rw [items] at scanned
    obtain rfl := Option.some.inj scanned
    exact own []
  | cons i rest =>
    rw [items] at scanned
    obtain ⟨first, scannedFirst, others⟩ := Option.bind_eq_some_iff.mp scanned
    obtain ⟨later, scannedLater, sum⟩ := Option.bind_eq_some_iff.mp others
    obtain rfl := Option.some.inj sum
    exact joins (item_forall own joins missing files c i scannedFirst)
      (items_forall own joins missing files c rest scannedLater)

end

end Items

theorem file_tells (crateName : String) (t : Tree) (n : Nat) (p : Path) (c : ModuleContext)
    {out : ScanOutput} (scanned : Scan.file crateName t n p c = some out) : Tells t out := by
  induction n generalizing p c out with
  | zero => cases scanned
  | succ n ih =>
    rw [Scan.file] at scanned
    cases read : t.read p with
    | error e =>
      rw [read] at scanned
      obtain rfl := Option.some.inj scanned
      exact tells_unread read
    | ok text =>
      rw [read] at scanned
      obtain ⟨inside, scannedInside, rest⟩ := Option.bind_eq_some_iff.mp scanned
      obtain rfl := Option.some.inj rest
      have listed : Tells t { files := [p] } := by
        refine ⟨?_, ?_⟩
        · intro q member
          obtain rfl := List.mem_singleton.mp member
          exact ⟨text, read⟩
        · rintro q ⟨e, reported⟩
          cases reported
      refine listed.append ?_
      unfold source at scannedInside
      split at scannedInside
      · obtain rfl := Option.some.inj scannedInside
        exact tells_unavailable (by simp [List.isPrefixOf])
      · refine items_forall tells_ofSites Tells.append ?_ (fun q c' _ h => ih q c' h) _ _ scannedInside
        intro c' d
        exact tells_unavailable (by simp [List.isPrefixOf])

/-- A scan of a file is the same in another tree with the same files if the two agree on what it looks at. -/
theorem file_carries_tree (crateName : String) {u : Tree} (sameFiles : ∀ p, u.isFile p = t.isFile p)
    (n : Nat) :
    Carries (fun out => ∀ p, out.LooksAt p → u.read p = t.read p) (Scan.file crateName t n)
      (Scan.file crateName u n) := by
  have splits : ∀ a b : ScanOutput, (∀ p, (a ++ b).LooksAt p → u.read p = t.read p) →
      (∀ p, a.LooksAt p → u.read p = t.read p) ∧ ∀ p, b.LooksAt p → u.read p = t.read p := by
    intro a b agree
    exact ⟨fun p looks => agree p ((ScanOutput.looksAt_append a b p).mpr (.inl looks)),
      fun p looks => agree p ((ScanOutput.looksAt_append a b p).mpr (.inr looks))⟩
  induction n with
  | zero =>
    intro p c out scanned
    cases scanned
  | succ n ih =>
    intro p c out scanned agree
    rw [Scan.file] at scanned ⊢
    cases read : t.read p with
    | error e =>
      rw [read] at scanned
      obtain rfl := Option.some.inj scanned
      have looks : ScanOutput.LooksAt (.unavailable (.ofFile p) ("failed to read: " ++ e.message)) p :=
        .inr ⟨e, List.mem_singleton_self _⟩
      rw [agree p looks, read]
    | ok text =>
      rw [read] at scanned
      obtain ⟨inside, scannedInside, rest⟩ := Option.bind_eq_some_iff.mp scanned
      obtain rfl := Option.some.inj rest
      have listed : ScanOutput.LooksAt ({ files := [p] } ++ inside) p :=
        .inl (List.mem_append_left _ List.mem_cons_self)
      rw [agree p listed, read]
      have inner := source_carries sameFiles splits ih _ text scannedInside (splits _ inside agree).2
      exact Option.bind_eq_some_iff.mpr ⟨inside, inner, rfl⟩

end Scan

/-- A scan of a crate lists only files with a text and reports only files without one as unreadable. It gives
the same result in every tree with the same files in which these files, the listed ones and the reported ones,
are as they were. -/
theorem scanCrate_depends {levels : Nat} {t u : Tree} {crateName : String} {root : Path}
    {out : ScanOutput} (scanned : scanCrate levels t crateName root = some out)
    (sameFiles : ∀ p, u.isFile p = t.isFile p) (agree : ∀ p, out.LooksAt p → u.read p = t.read p) :
    Scan.Tells t out ∧ scanCrate levels u crateName root = some out :=
  ⟨Scan.file_tells _ t levels root _ scanned,
    Scan.file_carries_tree _ sameFiles levels root _ out scanned agree⟩

/-- A module whose file is there, one whose file is missing, and a file that no module names. -/
theorem scanCrate_depends_of_missing_file :
    let t := Tree.ofList
      [("src/lib.rs", .file (.text "pub mod a; #[path = \"gone.rs\"] pub mod b;")),
        ("src/a.rs", .file (.text "pub struct H \x7b #[bind(1)] pub x: L \x7d")),
        ("src/other.rs", .file (.text "pub mod c;"))]
    let u := t.set ["work", "src", "other.rs"] (.file .binary)
    u.read "src/other.rs" ≠ t.read "src/other.rs" ∧
      ∃ out, out.files = ["src/lib.rs", "src/a.rs"] ∧ out.Unread "src/gone.rs" ∧ out.sites.length = 1 ∧
        scanCrate 3 t "app" "src/lib.rs" = some out ∧ scanCrate 3 u "app" "src/lib.rs" = some out := by
  intro t u
  have scanned : (scanCrate 3 t "app" "src/lib.rs").any (fun out =>
      out.files = ["src/lib.rs", "src/a.rs"] && out.sites.length = 1 &&
        out.diagnostics = [ScanOutput.unread "src/gone.rs" .notFound]) = true := by
    decide +kernel
  obtain ⟨out, found, checks⟩ := (Option.any_eq_true _ _).mp scanned
  simp only [Bool.and_eq_true, decide_eq_true_eq] at checks
  obtain ⟨⟨files, one⟩, diagnostics⟩ := checks
  have there : t.entry? ["work", "src", "other.rs"] = some (.file (.text "pub mod c;")) := by
    decide +kernel
  have agree : ∀ p, out.LooksAt p → u.read p = t.read p := by
    rintro p (listed | ⟨e, reported⟩)
    · rw [files] at listed
      obtain rfl | rfl : p = "src/lib.rs" ∨ p = "src/a.rs" := by simpa using listed
      all_goals decide +kernel
    · rw [diagnostics] at reported
      obtain rfl := ScanOutput.unread_inj (List.mem_singleton.mp reported)
      decide +kernel
  have again := (scanCrate_depends found (Tree.isFile_set there) agree).2
  refine ⟨by decide +kernel, out, files, ⟨.notFound, ?_⟩, one, found, again⟩
  rw [diagnostics]
  exact List.mem_singleton_self _

/-- A file that is no text is not listed. When it becomes one with a mark in it, the listed file is as before
and the result is another. -/
theorem scanCrate_omits_unreadable_file :
    let t := Tree.ofList [("src/lib.rs", .file (.text "pub mod a;")), ("src/a.rs", .file .binary)]
    let u := t.set ["work", "src", "a.rs"] (.file (.text "pub struct H \x7b #[bind(1)] pub x: L \x7d"))
    (∀ p, u.isFile p = t.isFile p) ∧
      ∃ before after, scanCrate 2 t "app" "src/lib.rs" = some before ∧
        scanCrate 2 u "app" "src/lib.rs" = some after ∧
        (∀ p ∈ before.files, u.read p = t.read p) ∧ before.files ≠ after.files ∧
        before.sites.length ≠ after.sites.length ∧ before.diagnostics ≠ after.diagnostics := by
  intro t u
  have scanned : (scanCrate 2 t "app" "src/lib.rs").any (fun out =>
      out.files = ["src/lib.rs"] && out.sites.length = 0 &&
        out.diagnostics = [ScanOutput.unread "src/a.rs" .notText]) = true := by
    decide +kernel
  have changed : (scanCrate 2 u "app" "src/lib.rs").any (fun out =>
      out.files = ["src/lib.rs", "src/a.rs"] && out.sites.length = 1 && out.diagnostics = []) = true := by
    decide +kernel
  obtain ⟨before, found, checks⟩ := (Option.any_eq_true _ _).mp scanned
  obtain ⟨after, foundAfter, checksAfter⟩ := (Option.any_eq_true _ _).mp changed
  simp only [Bool.and_eq_true, decide_eq_true_eq] at checks checksAfter
  obtain ⟨⟨files, sites⟩, diagnostics⟩ := checks
  obtain ⟨⟨filesAfter, sitesAfter⟩, diagnosticsAfter⟩ := checksAfter
  have there : t.entry? ["work", "src", "a.rs"] = some (.file .binary) := by decide +kernel
  refine ⟨Tree.isFile_set there, before, after, found, foundAfter, ?_, ?_, ?_, ?_⟩
  · intro p listed
    rw [files] at listed
    obtain rfl := List.mem_singleton.mp listed
    decide +kernel
  · rw [files, filesAfter]
    decide
  · rw [sites, sitesAfter]
    decide
  · rw [diagnostics, diagnosticsAfter]
    exact List.cons_ne_nil _ _

end SlotBinding
