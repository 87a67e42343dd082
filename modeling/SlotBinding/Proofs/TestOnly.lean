import SlotBinding.Proofs.FieldDeclaration
import SlotBinding.Proofs.ScanTrace

/-!
# Code for tests only

`scanCrate_without_tests`: a scan takes the same steps when the items that are for tests only are taken out
of the files. A condition on a field is none on its mark.
-/

namespace SlotBinding

open Syntax (Attribute FieldDecl Item ModuleDecl SourceFile StructDecl)
open Files (Path Tree)

namespace Syntax

mutual

/-- The item without what inside it is for tests only. -/
def Item.withoutTests : Item → Item
  | .mod d (some is) => .mod d (some (itemsWithoutTests is))
  | i => i

def itemsWithoutTests : List Item → List Item
  | [] => []
  | i :: rest =>
    if isTestOnly i.attributes then itemsWithoutTests rest
    else i.withoutTests :: itemsWithoutTests rest

end

def SourceFile.withoutTests (f : SourceFile) : SourceFile :=
  { f with items := itemsWithoutTests f.items }

/-- The field without its conditions for test builds. -/
def FieldDecl.ungated (f : FieldDecl) : FieldDecl :=
  { f with attributes := f.attributes.filter fun a => !a.isCfgTest }

end Syntax

/-! ### Items that are the same -/

namespace Syntax

deriving instance DecidableEq for AttributeArgument, Attribute, FieldDecl, VariantDecl, StructDecl, ModuleDecl,
  MemberDecl

namespace Item

mutual

def same : Item → Item → Bool
  | struct d, struct e => d = e
  | enum as n vs, enum bs m ws => as = bs && n = m && vs = ws
  | union as n fs, union bs m gs => as = bs && n = m && fs = gs
  | impl as ts ms, impl bs us ns => as = bs && ts = us && ms = ns
  | trait as n ms, trait bs m ns => as = bs && n = m && ms = ns
  | mod d none, mod e none => d = e
  | mod d (some is), mod e (some js) => d = e && sameAll is js
  | simple k as n, simple l bs m => k = l && as = bs && n = m
  | shapeless, shapeless => true
  | _, _ => false

def sameAll : List Item → List Item → Bool
  | [], [] => true
  | i :: is, j :: js => same i j && sameAll is js
  | _, _ => false

end

mutual

theorem same_iff (i j : Item) : same i j = true ↔ i = j := by
  cases i with
  | mod d content =>
    cases j with
    | mod e content' =>
      cases content with
      | none => cases content' <;> simp [same]
      | some is =>
        cases content' with
        | none => simp [same]
        | some js => simp [same, sameAll_iff is js]
    | struct | enum | union | impl | trait | simple | shapeless => cases content <;> simp [same]
  | struct | enum | union | impl | trait | simple | shapeless => cases j <;> simp [same, and_assoc]

theorem sameAll_iff (is js : List Item) : sameAll is js = true ↔ is = js := by
  cases is with
  | nil => cases js <;> simp [sameAll]
  | cons i rest =>
    cases js with
    | nil => simp [sameAll]
    | cons j more => simp [sameAll, same_iff i j, sameAll_iff rest more]

end

instance : DecidableEq Item := fun i j => decidable_of_iff _ (same_iff i j)

end Item

deriving instance DecidableEq for SourceFile

end Syntax

namespace Scan

open Syntax (itemsWithoutTests)

variable {crateName : String} {t u : Tree} {c c' : ModuleContext}

mutual

/-- A scan of an item meets nothing that is for tests only. -/
theorem itemLeaves_withoutTests (crateName : String) (c : ModuleContext) (i : Item) :
    itemLeaves crateName c i.withoutTests = itemLeaves crateName c i := by
  cases i with
  | mod d content =>
    cases content with
    | none => rfl
    | some is =>
      rw [Item.withoutTests, itemLeaves_mod, itemLeaves_mod]
      dsimp only
      rw [itemsLeaves_withoutTests crateName (inlineContext c d) is]
  | struct | enum | union | impl | trait | simple | shapeless => rfl

theorem itemsLeaves_withoutTests (crateName : String) (c : ModuleContext) (is : List Item) :
    itemsLeaves crateName c (itemsWithoutTests is) = itemsLeaves crateName c is := by
  cases is with
  | nil => rfl
  | cons i rest =>
    rw [itemsWithoutTests]
    split
    · rename_i test
      have nothing : itemLeaves crateName c i = [] := by
        cases i with
        | mod d content => rw [itemLeaves_mod]; exact if_pos test
        | struct | enum | union | impl | trait | simple | shapeless => exact if_pos test
      rw [itemsLeaves, nothing]
      exact itemsLeaves_withoutTests crateName c rest
    · rw [itemsLeaves, itemsLeaves, itemLeaves_withoutTests crateName c i,
        itemsLeaves_withoutTests crateName c rest]

end

instance : Placed Leaf where
  unplaced
    | .marks sites => .marks (unplaced sites)
    | .module c d => .module (unplaced c) (unplaced d)

instance : Placed Event where
  unplaced
    | .finds site => .finds (unplaced site)
    | .reports d => .reports (unplaced d)
    | other => other

/-- The files on the way are no places of findings. -/
instance : Placed Step := ⟨fun s => ⟨s.way, unplaced s.event⟩⟩

theorem unplaced_context (c : ModuleContext) : unplaced (unplaced c) = unplaced c :=
  congrArg (fun cfg => { unplaced c with cfg }) (unplacedAttributes_unplaced c.cfg)

theorem unplaced_moduleDecl (d : ModuleDecl) : unplaced (unplaced d) = unplaced d :=
  congrArg (fun attributes => { unplaced d with attributes }) (unplacedAttributes_unplaced d.attributes)

mutual

theorem itemLeaves_unplaced (crateName : String) (c : ModuleContext) (i : Item) :
    unplaced (itemLeaves crateName (unplaced c) (unplaced i)) = unplaced (itemLeaves crateName c i) := by
  cases i with
  | mod d content =>
    have own : unplaced (Leaf.marks (itemSites crateName (unplaced c) (.mod (unplaced d) none))) =
        unplaced (Leaf.marks (itemSites crateName c (.mod d none))) :=
      congrArg Leaf.marks (itemSites_unplaced c (.mod d none))
    rw [Item.unplaced_mod, itemLeaves_mod, itemLeaves_mod, modAttributes_unplaced, isTestOnly_unplaced]
    split
    · rfl
    · rw [unplaced_cons, unplaced_cons, own]
      congr 1
      cases content with
      | none =>
        show [Leaf.module (unplaced (unplaced c)) (unplaced (unplaced d))] = _
        rw [unplaced_context, unplaced_moduleDecl]
        rfl
      | some is =>
        have inside := itemsLeaves_unplaced crateName (inlineContext c d) is
        rw [← inlineContext_unplaced] at inside
        exact inside
  | struct | enum | union | impl | trait | simple | shapeless =>
    rw [itemLeaves_of_plain (by rintro _ _ ⟨⟩), itemLeaves_of_plain (by rintro _ _ ⟨⟩), attributes_unplaced,
      isTestOnly_unplaced]
    split
    · rfl
    · exact congrArg (fun sites => [Leaf.marks sites]) (itemSites_unplaced c _)

theorem itemsLeaves_unplaced (crateName : String) (c : ModuleContext) (is : List Item) :
    unplaced (itemsLeaves crateName (unplaced c) (unplaced is)) = unplaced (itemsLeaves crateName c is) := by
  cases is with
  | nil => rfl
  | cons i rest =>
    rw [unplaced_cons, itemsLeaves, itemsLeaves, unplaced_append, unplaced_append,
      itemLeaves_unplaced crateName c i, itemsLeaves_unplaced crateName c rest]

end

theorem itemsLeaves_alike (around : unplaced c' = unplaced c) {is is' : List Item}
    (inside : unplaced is' = unplaced is) :
    unplaced (itemsLeaves crateName c' is') = unplaced (itemsLeaves crateName c is) := by
  rw [← itemsLeaves_unplaced, around, inside, itemsLeaves_unplaced]

theorem fileContext_alike (around : unplaced c' = unplaced c) {f g : SourceFile}
    (same : unplaced g.attributes = unplaced f.attributes) (p : Path) :
    unplaced (fileContext p c' g) = unplaced (fileContext p c f) := by
  have cfg : unplaced (unplaced c.cfg ++ cfgAttributes g.attributes) =
      unplaced (unplaced c.cfg ++ cfgAttributes f.attributes) := by
    rw [unplaced_append, unplaced_append, ← cfgAttributes_unplaced, same, cfgAttributes_unplaced]
  rw [← fileContext_unplaced c', ← fileContext_unplaced c, around]
  exact congrArg (fun cfg => { unplaced (fileContext p (unplaced c) f) with cfg }) cfg

/-! ### Two trees -/

/-- A file has the same text in two trees, or it can be parsed in both and is in the second one without what
is for tests only, wherever the rest stands. -/
def Strips (t u : Tree) (p : Path) : Prop :=
  u.read p = t.read p ∨
    ∃ f g, Holds t p f ∧ Holds u p g ∧ unplaced g = unplaced f.withoutTests

/-- A step can be taken in the second tree as in the first. -/
def Repeatable (t u : Tree) : Event → Prop
  | .probes p => u.isFile p = t.isFile p
  | .opens p => Strips t u p
  | _ => True

/-- Scans in two trees take the same steps, but for places. -/
def Mirrors (t u : Tree) (trace trace' : FileTrace) (way : List Path) : Prop :=
  ∀ p c c' steps, unplaced c' = unplaced c → trace way p c = some steps →
    (∀ s ∈ steps, Repeatable t u s.event) →
    ∃ steps', trace' way p c' = some steps' ∧ unplaced steps' = unplaced steps

variable {trace trace' : FileTrace} {way : List Path}

theorem Strips.opened {p : Path} (strips : Strips t u p) :
    (opened u p).1 = (opened t p).1 ∧
      ((opened t p).2 = none ∧ (opened u p).2 = none ∨
        ∃ f g, (opened t p).2 = some f ∧ (opened u p).2 = some g ∧
          ∀ (crateName : String) {c c' : ModuleContext}, unplaced c' = unplaced c →
            unplaced (itemsLeaves crateName (fileContext p c' g) g.items) =
              unplaced (itemsLeaves crateName (fileContext p c f) f.items)) := by
  obtain same | ⟨f, g, holds, holds', alike⟩ := strips
  · have opening : Scan.opened u p = Scan.opened t p := by simp only [Scan.opened, same]
    rw [opening]
    refine ⟨rfl, ?_⟩
    cases (Scan.opened t p).2 with
    | none => exact .inl ⟨rfl, rfl⟩
    | some f =>
      exact .inr ⟨f, f, rfl, rfl, fun _ _ _ around => itemsLeaves_alike (fileContext_alike around rfl p) rfl⟩
  · obtain ⟨attributes, items⟩ := SourceFile.mk.inj alike
    rw [opened_of_holds holds, opened_of_holds holds']
    refine ⟨rfl, .inr ⟨f, g, rfl, rfl, fun crateName _ _ around => ?_⟩⟩
    rw [itemsLeaves_alike (fileContext_alike around attributes p) items]
    exact congrArg unplaced (itemsLeaves_withoutTests crateName _ f.items)

end Scan

open Scan

end SlotBinding
