import SlotBinding.Proofs.ScanLevels

/-!
# Scans that do not end

A scan follows modules from file to file. `scanCrate_ends_iff`: it ends unless it comes to a file that leads
back to itself. And whatever it gives with some number of levels it gives with `levelsFor` (`scanCrate_levelsFor`).
-/

namespace SlotBinding

open Syntax (Item ModuleDecl SourceFile)
open Files (Path Tree)

namespace Scan

variable {t : Tree} {crateName : String}

/-! ### More levels, and other trees -/

/-- A scan of files gives what another one gives if that has a property. -/
def Carries (P : ScanOutput → Prop) (file file' : FileScan) : Prop :=
  ∀ p c out, file p c = some out → P out → file' p c = some out

theorem moduleFile?_congr {u : Tree} (sameFiles : ∀ p, u.isFile p = t.isFile p) (c : ModuleContext)
    (d : ModuleDecl) : moduleFile? u c d = moduleFile? t c d := by
  unfold moduleFile?
  simp only [sameFiles]

section Carry

variable {u : Tree} {P : ScanOutput → Prop} {file file' : FileScan}

theorem fileModule_carries (sameFiles : ∀ p, u.isFile p = t.isFile p) (carries : Carries P file file')
    (c : ModuleContext) (d : ModuleDecl) {out : ScanOutput} (scanned : fileModule t file c d = some out)
    (holds : P out) : fileModule u file' c d = some out := by
  rw [fileModule_eq] at scanned ⊢
  rw [moduleFile?_congr sameFiles]
  cases found : moduleFile? t c d with
  | none =>
    rw [found] at scanned
    exact scanned
  | some r =>
    rw [found] at scanned
    exact carries r.1 r.2 out scanned holds

mutual

theorem item_carries (sameFiles : ∀ p, u.isFile p = t.isFile p)
    (splits : ∀ a b : ScanOutput, P (a ++ b) → P a ∧ P b) (carries : Carries P file file')
    (c : ModuleContext) (i : Item) {out : ScanOutput} (scanned : item crateName t file c i = some out)
    (holds : P out) : item crateName u file' c i = some out := by
  cases i with
  | mod d content =>
    rw [item_mod] at scanned ⊢
    split at scanned
    · rename_i test
      rw [if_pos test]
      exact scanned
    · rename_i notTest
      rw [if_neg notTest]
      obtain ⟨inside, scannedInside, rfl⟩ := Option.map_eq_some_iff.mp scanned
      have inner := (splits _ inside holds).2
      refine Option.map_eq_some_iff.mpr ⟨inside, ?_, rfl⟩
      cases content with
      | none => exact fileModule_carries sameFiles carries c d scannedInside inner
      | some is => exact items_carry sameFiles splits carries (inlineContext c d) is scannedInside inner
  | struct | enum | union | impl | trait | simple | shapeless =>
    rw [item] at scanned ⊢
    · exact scanned
    all_goals rintro _ _ ⟨⟩

theorem items_carry (sameFiles : ∀ p, u.isFile p = t.isFile p)
    (splits : ∀ a b : ScanOutput, P (a ++ b) → P a ∧ P b) (carries : Carries P file file')
    (c : ModuleContext) (is : List Item) {out : ScanOutput}
    (scanned : items crateName t file c is = some out) (holds : P out) :
    items crateName u file' c is = some out := by
  cases is with
  | nil =>
    rw [items] at scanned ⊢
    exact scanned
  | cons i rest =>
    rw [items] at scanned ⊢
    obtain ⟨first, scannedFirst, others⟩ := Option.bind_eq_some_iff.mp scanned
    obtain ⟨later, scannedLater, sum⟩ := Option.bind_eq_some_iff.mp others
    obtain rfl := Option.some.inj sum
    obtain ⟨here, behind⟩ := splits first later holds
    rw [item_carries sameFiles splits carries c i scannedFirst here,
      items_carry sameFiles splits carries c rest scannedLater behind]
    rfl

end

theorem source_carries (sameFiles : ∀ p, u.isFile p = t.isFile p)
    (splits : ∀ a b : ScanOutput, P (a ++ b) → P a ∧ P b) (carries : Carries P file file')
    (c : ModuleContext) (text : String) {out : ScanOutput}
    (scanned : source crateName t file c text = some out) (holds : P out) :
    source crateName u file' c text = some out := by
  unfold source at scanned ⊢
  cases parsed : Grammar.sourceFile text with
  | error e =>
    rw [parsed] at scanned
    exact scanned
  | ok f =>
    rw [parsed] at scanned
    exact items_carry sameFiles splits carries _ f.items scanned holds

end Carry

theorem file_carries_succ (crateName : String) (t : Tree) (n : Nat) :
    Carries (fun _ => True) (Scan.file crateName t n) (Scan.file crateName t (n + 1)) := by
  induction n with
  | zero =>
    intro p c out scanned
    cases scanned
  | succ n ih =>
    intro p c out scanned _
    rw [Scan.file] at scanned ⊢
    cases read : t.read p with
    | error f =>
      rw [read] at scanned
      exact scanned
    | ok text =>
      rw [read] at scanned
      obtain ⟨inside, scannedInside, rest⟩ := Option.bind_eq_some_iff.mp scanned
      have more := source_carries (fun _ => rfl) (fun _ _ _ => ⟨trivial, trivial⟩) ih _ text
        scannedInside trivial
      exact Option.bind_eq_some_iff.mpr ⟨inside, more, rest⟩

end Scan

/-- A scan of a crate that gives a result with some levels gives it with more levels, too. -/
theorem scanCrate_of_le {m n : Nat} (more : m ≤ n) {t : Tree} {crateName : String} {root : Path}
    {out : ScanOutput} (scanned : scanCrate m t crateName root = some out) :
    scanCrate n t crateName root = some out := by
  induction more with
  | refl => exact scanned
  | step _ ih => exact Scan.file_carries_succ _ t _ _ _ _ ih trivial

/-- The levels for a tree are enough for every scan of it that ends. -/
theorem scanCrate_levelsFor {n : Nat} {t : Tree} {crateName : String} {root : Path} {out : ScanOutput}
    (scanned : scanCrate n t crateName root = some out) : scanCrate (levelsFor t) t crateName root = some out := by
  cases enough : scanCrate (levelsFor t) t crateName root with
  | none =>
    obtain ⟨v, way, returns⟩ := Scan.exists_returns enough
    have nothing : scanCrate n t crateName root = none := Scan.file_none_of_reaches way returns n rfl
    exact absurd (nothing.symm.trans scanned) nofun
  | some own =>
    have first := scanCrate_of_le (Nat.le_max_left n (levelsFor t)) scanned
    have second := scanCrate_of_le (Nat.le_max_right n (levelsFor t)) enough
    exact second.symm.trans first

/-- A scan of a crate has a result, which all large enough numbers of levels give, unless the root file leads
to a file that leads back to itself. -/
theorem scanCrate_ends_iff (t : Tree) (crateName : String) (root : Path) :
    (∃ out n, ∀ m, n ≤ m → scanCrate m t crateName root = some out) ↔
      ¬∃ v, Relation.ReflTransGen (Scan.Leads t) (rootVisit root) v ∧ Scan.Returns t v := by
  constructor
  · rintro ⟨out, n, scanned⟩ ⟨v, way, returns⟩
    have nothing : scanCrate n t crateName root = none := Scan.file_none_of_reaches way returns n rfl
    exact absurd (nothing.symm.trans (scanned n (Nat.le_refl n))) nofun
  · intro free
    cases scanned : scanCrate (levelsFor t) t crateName root with
    | none => exact absurd (Scan.exists_returns scanned) free
    | some out => exact ⟨out, levelsFor t, fun m more => scanCrate_of_le more scanned⟩

/-- A file whose only module is the file again. -/
theorem scanCrate_endless :
    let t := Tree.ofList [("src/lib.rs", .file (.text "#[path = \"lib.rs\"] mod again;"))]
    ∀ levels, scanCrate levels t "app" "src/lib.rs" = none := by
  intro t levels
  have file : (t.read "src/lib.rs").toOption.any (fun text =>
      (Grammar.sourceFile text).toOption.any
        (Scan.declares fun d => filePath? d.attributes = some "lib.rs")) = true := by
    decide +kernel
  obtain ⟨f, holds, only⟩ := Scan.exists_holds file
  obtain ⟨d, items, kept, named⟩ := Scan.exists_of_declares only
  have path : filePath? d.attributes = some "lib.rs" := of_decide_eq_true named
  have same : (Path.parent "src/lib.rs").join "lib.rs" = "src/lib.rs" := by decide +kernel
  have again : Scan.Leads t (rootVisit "src/lib.rs") (rootVisit "src/lib.rs") := by
    refine ⟨f, [], f.items, d, holds, .here _, by simp [items], kept, ?_⟩
    simp only [List.foldl_nil, Scan.Place.file?, path, rootVisit, Scan.Place.single, same]
    rfl
  exact Scan.file_none_of_returns (.single again) levels rfl

end SlotBinding
