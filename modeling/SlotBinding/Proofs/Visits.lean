import Mathlib.Data.List.Basic
import Mathlib.Logic.Relation
import SlotBinding.Proofs.ModuleFiles

/-!
# Scans from file to file

A scan that gives nothing has a next file of which it gives nothing with one level less (`exists_leads`). Where
files lead back to themselves it gives nothing with any number of levels (`file_none_of_reaches`).
-/

namespace SlotBinding

open Syntax (Item ModuleDecl SourceFile)
open Files (Path Tree)

namespace Scan

variable {t : Tree} {crateName : String}

structure Visit where
  path : Path
  dir : Path

def Visit.of (r : Path × Place) : Visit := ⟨r.1, r.2.dir⟩

def Leads (t : Tree) (v w : Visit) : Prop :=
  ∃ f ds is d, Holds t v.path f ∧ Inside f.items ds is ∧ .mod d none ∈ is ∧
    isTestOnly d.attributes = false ∧
    ((ds.foldl Place.inline (.single v.dir)).file? t d).map Visit.of = some w

/-- A module that the items lead to has a file of which the scan gives nothing. -/
def Fails (t : Tree) (file : FileScan) (c : ModuleContext) (is : List Item) : Prop :=
  ∃ ds is' d p inside, Inside is ds is' ∧ .mod d none ∈ is' ∧ isTestOnly d.attributes = false ∧
    moduleFile? t (ds.foldl inlineContext c) d = some (p, inside) ∧ file p inside = none

theorem inside_mono {is js is' : List Item} {ds : List ModuleDecl} (sub : ∀ i ∈ is, i ∈ js) (d : ModuleDecl)
    (way : Inside is ds is') (among : .mod d none ∈ is') :
    ∃ js', Inside js ds js' ∧ .mod d none ∈ js' := by
  cases way with
  | here => exact ⟨js, .here js, sub _ among⟩
  | deeper first kept rest => exact ⟨is', .deeper (sub _ first) kept rest, among⟩

theorem Fails.mono {file : FileScan} {c : ModuleContext} {is js : List Item} (fails : Fails t file c is)
    (sub : ∀ i ∈ is, i ∈ js) : Fails t file c js := by
  obtain ⟨ds, is', d, p, inside, way, among, rest⟩ := fails
  obtain ⟨js', way, among⟩ := inside_mono sub d way among
  exact ⟨ds, js', d, p, inside, way, among, rest⟩

theorem fails_of_fileModule {file : FileScan} {c : ModuleContext} {d : ModuleDecl} {is : List Item}
    (among : .mod d none ∈ is) (kept : isTestOnly d.attributes = false)
    (stuck : fileModule t file c d = none) : Fails t file c is := by
  rw [fileModule_eq] at stuck
  cases found : moduleFile? t c d with
  | none =>
    rw [found] at stuck
    cases stuck
  | some r =>
    rw [found] at stuck
    exact ⟨[], is, d, r.1, r.2, .here is, among, kept, found, stuck⟩

mutual

theorem fails_of_item {file : FileScan} (c : ModuleContext) (i : Item)
    (stuck : item crateName t file c i = none) : Fails t file c [i] := by
  cases i with
  | mod d content =>
    rw [item_mod] at stuck
    split at stuck
    · cases stuck
    · rename_i notTest
      have kept : isTestOnly d.attributes = false := by simpa using notTest
      have inner := Option.map_eq_none_iff.mp stuck
      cases content with
      | none => exact fails_of_fileModule List.mem_cons_self kept inner
      | some is =>
        obtain ⟨ds, is', e, p, inside, way, rest⟩ := fails_of_items (inlineContext c d) is inner
        exact ⟨d :: ds, is', e, p, inside, .deeper List.mem_cons_self kept way, rest⟩
  | struct | enum | union | impl | trait | simple | shapeless =>
    rw [item] at stuck
    · split at stuck <;> cases stuck
    · rintro _ _ ⟨⟩

theorem fails_of_items {file : FileScan} (c : ModuleContext) (is : List Item)
    (stuck : items crateName t file c is = none) : Fails t file c is := by
  cases is with
  | nil =>
    rw [items] at stuck
    cases stuck
  | cons i rest =>
    rw [items] at stuck
    cases first : item crateName t file c i with
    | none => exact (fails_of_item c i first).mono (by simp)
    | some out =>
      rw [first] at stuck
      cases others : items crateName t file c rest with
      | none => exact (fails_of_items c rest others).mono fun _ h => List.mem_cons_of_mem _ h
      | some more =>
        rw [others] at stuck
        cases stuck

end

theorem items_none_of_fails {file : FileScan} {c : ModuleContext} {is : List Item}
    (fails : Fails t file c is) : items crateName t file c is = none := by
  obtain ⟨ds, is', d, p, inside, way, among, kept, found, stuck⟩ := fails
  by_contra ends
  obtain ⟨out, scanned⟩ := Option.ne_none_iff_exists'.mp ends
  obtain ⟨around, scannedAround, _⟩ := items_of_inside way scanned
  obtain ⟨part, scannedPart, _⟩ := fileModule_of_mem scannedAround among kept
  rw [fileModule_eq, found] at scannedPart
  exact absurd (stuck.symm.trans scannedPart) nofun

theorem fails_of_file {n : Nat} {p : Path} {c : ModuleContext}
    (stuck : Scan.file crateName t (n + 1) p c = none) :
    ∃ f, Holds t p f ∧ Fails t (Scan.file crateName t n) (fileContext p c f) f.items := by
  rw [Scan.file] at stuck
  split at stuck
  · cases stuck
  · rename_i text read
    have inner := Option.map_eq_none_iff.mp (Option.map_eq_bind.trans stuck)
    unfold source at inner
    split at inner
    · cases inner
    · rename_i f parsed
      exact ⟨f, ⟨text, read, parsed⟩, fails_of_items _ f.items inner⟩

theorem file_none_of_fails {n : Nat} {p : Path} {c : ModuleContext} {f : SourceFile} (holds : Holds t p f)
    (fails : Fails t (Scan.file crateName t n) (fileContext p c f) f.items) :
    Scan.file crateName t (n + 1) p c = none := by
  by_contra ends
  obtain ⟨out, scanned⟩ := Option.ne_none_iff_exists'.mp ends
  obtain ⟨part, scannedPart, _⟩ := items_of_file holds scanned
  exact absurd ((items_none_of_fails fails).symm.trans scannedPart) nofun

/-- A scan that gives nothing has a next file of which it gives nothing with one level less. -/
theorem exists_leads {n : Nat} {v : Visit} {c : ModuleContext} (dir : c.dir = v.dir)
    (stuck : Scan.file crateName t (n + 1) v.path c = none) :
    ∃ w c', Leads t v w ∧ c'.dir = w.dir ∧ Scan.file crateName t n w.path c' = none := by
  obtain ⟨f, holds, ds, is, d, p, inside, way, among, kept, found, deeper⟩ := fails_of_file stuck
  rw [moduleFile?_eq_file?, ← foldl_inline_single] at found
  obtain ⟨r, file, same⟩ := Option.map_eq_some_iff.mp found
  obtain ⟨rfl, rfl⟩ := Prod.mk.inj same
  refine ⟨Visit.of r, _, ⟨f, ds, is, d, holds, way, among, kept, ?_⟩, rfl, deeper⟩
  rw [← dir]
  exact Option.map_eq_some_iff.mpr ⟨r, file, rfl⟩

theorem file_none_of_leads {n : Nat} {v w : Visit} (leads : Leads t v w)
    (deeper : ∀ c : ModuleContext, c.dir = w.dir → Scan.file crateName t n w.path c = none)
    {c : ModuleContext} (dir : c.dir = v.dir) : Scan.file crateName t (n + 1) v.path c = none := by
  obtain ⟨f, ds, is, d, holds, way, among, kept, found⟩ := leads
  obtain ⟨r, file, rfl⟩ := Option.map_eq_some_iff.mp found
  have same : (fileContext v.path c f).dir = v.dir := dir
  have here : moduleFile? t (ds.foldl inlineContext (fileContext v.path c f)) d =
      some (r.1, { (ds.foldl inlineContext (fileContext v.path c f)).child d with dir := r.2.dir }) := by
    rw [moduleFile?_eq_file?, ← foldl_inline_single, same, file]
    rfl
  exact file_none_of_fails holds ⟨ds, is, d, r.1, _, way, among, kept, here, deeper _ rfl⟩

/-- A file leads over files to itself. -/
def Returns (t : Tree) (v : Visit) : Prop := Relation.TransGen (Leads t) v v

theorem file_none_of_returns {v : Visit} (returns : Returns t v) (n : Nat) {c : ModuleContext}
    (dir : c.dir = v.dir) : Scan.file crateName t n v.path c = none := by
  -- Every file on the way back lies on a way back to itself.
  induction n generalizing v c with
  | zero => rfl
  | succ n ih =>
    obtain ⟨w, first, rest⟩ := Relation.TransGen.head'_iff.mp returns
    have again : Returns t w := Relation.TransGen.tail'_iff.mpr ⟨v, rest, first⟩
    exact file_none_of_leads first (fun c' same => ih again same) dir

theorem file_none_of_reaches {v w : Visit} (way : Relation.ReflTransGen (Leads t) v w)
    (returns : Returns t w) (n : Nat) {c : ModuleContext} (dir : c.dir = v.dir) :
    Scan.file crateName t n v.path c = none := by
  induction way using Relation.ReflTransGen.head_induction_on generalizing n c with
  | refl => exact file_none_of_returns returns n dir
  | head first _ ih =>
    cases n with
    | zero => rfl
    | succ n => exact file_none_of_leads first (fun c' same => ih n same) dir

end Scan

/-- The root file of a crate. Its modules are looked up in its directory. -/
def rootVisit (root : Path) : Scan.Visit := ⟨root, Path.parent root⟩

end SlotBinding
