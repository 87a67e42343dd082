import SlotBinding.Proofs.Dependencies
import SlotBinding.Proofs.InlineModules

/-!
# The steps of a scan

A trace lists what a scan does: the places where it looks for a file, the files it opens, and what it
finds, each with the files that led there. `file_eq_output`: the outcome of a scan is what its trace says.
-/

namespace SlotBinding.Scan

open Syntax (Item ModuleDecl SourceFile SyntaxError)
open Files (Path Tree)

/-! ### What is met in one file -/

inductive Leaf
  | marks (sites : List Site)
  | module (c : ModuleContext) (d : ModuleDecl)

mutual

def itemLeaves (crateName : String) (c : ModuleContext) : Item → List Leaf
  | .mod d content =>
    if isTestOnly d.attributes then []
    else
      .marks (itemSites crateName c (.mod d none)) ::
        match content with
        | some is => itemsLeaves crateName (inlineContext c d) is
        | none => [.module c d]
  | i => if isTestOnly i.attributes then [] else [.marks (itemSites crateName c i)]

def itemsLeaves (crateName : String) (c : ModuleContext) : List Item → List Leaf
  | [] => []
  | i :: rest => itemLeaves crateName c i ++ itemsLeaves crateName c rest

end

theorem itemLeaves_mod (crateName : String) (c : ModuleContext) (d : ModuleDecl)
    (content : Option (List Item)) :
    itemLeaves crateName c (.mod d content) =
      if isTestOnly d.attributes then []
      else
        .marks (itemSites crateName c (.mod d none)) ::
          match content with
          | some is => itemsLeaves crateName (inlineContext c d) is
          | none => [.module c d] := by
  cases content <;> rfl

theorem itemLeaves_of_plain {crateName : String} {c : ModuleContext} {i : Item}
    (plain : ∀ d content, i ≠ .mod d content) :
    itemLeaves crateName c i =
      if isTestOnly i.attributes then [] else [.marks (itemSites crateName c i)] := by
  cases i with
  | mod d content => exact absurd rfl (plain d content)
  | struct | enum | union | impl | trait | simple | shapeless => rfl

/-! ### Traces -/

inductive Event
  /-- Looks whether a file is there. -/
  | probes (p : Path)
  | opens (p : Path)
  /-- Has read the text of a file. -/
  | lists (p : Path)
  | finds (site : Site)
  | reports (d : Diagnostic)

namespace Event

def site? : Event → Option Site
  | finds site => some site
  | _ => none

def diagnostic? : Event → Option Diagnostic
  | reports d => some d
  | _ => none

def file? : Event → Option Path
  | lists p => some p
  | _ => none

def probe? : Event → Option Path
  | probes p => some p
  | _ => none

def opening? : Event → Option Path
  | opens p => some p
  | _ => none

end Event

/-- An event, and the files that led to it, the outermost first. -/
structure Step where
  way : List Path
  event : Event

def output (steps : List Step) : ScanOutput :=
  { sites := steps.filterMap (·.event.site?)
    diagnostics := steps.filterMap (·.event.diagnostic?)
    files := steps.filterMap (·.event.file?) }

def probedPaths (steps : List Step) : List Path := steps.filterMap (·.event.probe?)

def openedPaths (steps : List Step) : List Path := steps.filterMap (·.event.opening?)

theorem mem_probedPaths {steps : List Step} {s : Step} {p : Path} (member : s ∈ steps)
    (probes : s.event = .probes p) : p ∈ probedPaths steps :=
  List.mem_filterMap.mpr ⟨s, member, by rw [probes]; rfl⟩

theorem mem_openedPaths {steps : List Step} {s : Step} {p : Path} (member : s ∈ steps)
    (opens : s.event = .opens p) : p ∈ openedPaths steps :=
  List.mem_filterMap.mpr ⟨s, member, by rw [opens]; rfl⟩

theorem output_append (a b : List Step) : output (a ++ b) = output a ++ output b := by
  simp only [output, List.filterMap_append]
  rfl

theorem output_quiet {way : List Path} {events : List Event}
    (quiet : ∀ e ∈ events, e.site? = none ∧ e.diagnostic? = none ∧ e.file? = none) :
    output (events.map (⟨way, ·⟩)) = {} := by
  induction events with
  | nil => rfl
  | cons e rest ih =>
    obtain ⟨site, diagnostic, file⟩ := quiet e List.mem_cons_self
    have others := ih fun e member => quiet e (List.mem_cons_of_mem _ member)
    simpa only [output, List.map_cons, List.filterMap_cons, site, diagnostic, file] using others

theorem output_sites (way : List Path) (sites : List Site) :
    output (sites.map fun site => ⟨way, .finds site⟩) = .ofSites sites := by
  simp [output, ScanOutput.ofSites, List.filterMap_map, Event.site?, Event.diagnostic?, Event.file?]

abbrev FileTrace := List Path → Path → ModuleContext → Option (List Step)

def probed (t : Tree) (c : ModuleContext) (d : ModuleDecl) : List Path :=
  match filePath? d.attributes with
  | some _ => []
  | none =>
    let (flat, nested) := candidates c (plainName d.name)
    if t.isFile flat then [flat] else [flat, nested]

def missing (c : ModuleContext) (d : ModuleDecl) : List Event :=
  (notFound c d).diagnostics.map .reports

namespace Leaf

def trace (t : Tree) (file : FileTrace) (way : List Path) : Leaf → Option (List Step)
  | marks sites => some (sites.map fun site => ⟨way, .finds site⟩)
  | module c d =>
    let looking : List Step := (probed t c d).map fun p => ⟨way, .probes p⟩
    match moduleFile? t c d with
    | some (p, inside) => (file way p inside).map (looking ++ ·)
    | none => some (looking ++ (missing c d).map (⟨way, ·⟩))

end Leaf

def traceLeaves (visit : Leaf → Option (List Step)) : List Leaf → Option (List Step)
  | [] => some []
  | l :: rest => (visit l).bind fun first => (traceLeaves visit rest).map (first ++ ·)

def unparsed (p : Path) (e : SyntaxError) : Diagnostic :=
  .error .sourceUnavailable (some (.ofFile p)) ("failed to parse: " ++ e.message)

def opened (t : Tree) (p : Path) : List Event × Option SourceFile :=
  match t.read p with
  | .error e => ([.reports (ScanOutput.unread p e)], none)
  | .ok text =>
    match Grammar.sourceFile text with
    | .error e => ([.lists p, .reports (unparsed p e)], none)
    | .ok f => ([.lists p], some f)

def entry (t : Tree) (way : List Path) (p : Path) : List Step :=
  ⟨way, .opens p⟩ :: (opened t p).1.map (⟨way ++ [p], ·⟩)

/-- The steps of the scan of a file; modules may lie in files of their own so many levels deep. -/
def traceFile (crateName : String) (t : Tree) : Nat → FileTrace
  | 0, _, _, _ => none
  | n + 1, way, p, c =>
    match (opened t p).2 with
    | some f =>
      (traceLeaves (Leaf.trace t (traceFile crateName t n) (way ++ [p]))
        (itemsLeaves crateName (fileContext p c f) f.items)).map (entry t way p ++ ·)
    | none => some (entry t way p)

/-! ### Traces and outcomes -/

variable {crateName : String} {t : Tree} {file : FileScan} {trace : FileTrace} {way : List Path}

theorem traceLeaves_append (visit : Leaf → Option (List Step)) (as bs : List Leaf) :
    traceLeaves visit (as ++ bs) =
      (traceLeaves visit as).bind fun first => (traceLeaves visit bs).map (first ++ ·) := by
  induction as with
  | nil => simp [traceLeaves]
  | cons a rest ih =>
    rw [List.cons_append, traceLeaves, ih, traceLeaves]
    cases visit a with
    | none => rfl
    | some first =>
      cases traceLeaves visit rest with
      | none => rfl
      | some more => simp [Function.comp_def, List.append_assoc]

/-- The outcomes of scans of files are what the traces say. -/
def Follows (file : FileScan) (trace : FileTrace) (way : List Path) : Prop :=
  ∀ p c, file p c = (trace way p c).map output

theorem map_output_append (front : List Step) (steps : Option (List Step)) :
    (steps.map (front ++ ·)).map output = (steps.map output).map (output front ++ ·) := by
  cases steps with
  | none => rfl
  | some steps => exact congrArg some (output_append front steps)

theorem fileModule_eq_output (follows : Follows file trace way) (c : ModuleContext) (d : ModuleDecl) :
    fileModule t file c d = ((Leaf.module c d).trace t trace way).map output := by
  have probing : output ((probed t c d).map fun p => ⟨way, .probes p⟩) = {} := by
    have quiet : output (((probed t c d).map Event.probes).map (⟨way, ·⟩)) = {} :=
      output_quiet (by simp [Event.site?, Event.diagnostic?, Event.file?])
    rwa [List.map_map] at quiet
  rw [Leaf.trace, fileModule_eq]
  cases moduleFile? t c d with
  | none =>
    dsimp only
    rw [Option.map_some, output_append, probing]
    rfl
  | some r =>
    dsimp only
    rw [map_output_append, probing, ← follows r.1 r.2]
    cases file r.1 r.2 <;> rfl

mutual

theorem item_eq_output (follows : Follows file trace way) (c : ModuleContext) (i : Item) :
    item crateName t file c i =
      (traceLeaves (Leaf.trace t trace way) (itemLeaves crateName c i)).map output := by
  cases i with
  | mod d content =>
    rw [item_mod, itemLeaves_mod]
    split
    · rfl
    · rw [traceLeaves, Leaf.trace, Option.bind_some, map_output_append, output_sites]
      congr 1
      cases content with
      | none =>
        dsimp only
        rw [fileModule_eq_output follows, traceLeaves]
        cases (Leaf.module c d).trace t trace way <;> simp [traceLeaves]
      | some is => exact items_eq_output follows (inlineContext c d) is
  | struct | enum | union | impl | trait | simple | shapeless =>
    rw [item_of_plain _ (by rintro _ _ ⟨⟩), itemLeaves_of_plain (by rintro _ _ ⟨⟩)]
    split
    · rfl
    · simp [traceLeaves, Leaf.trace, output_sites]

theorem items_eq_output (follows : Follows file trace way) (c : ModuleContext) (is : List Item) :
    items crateName t file c is =
      (traceLeaves (Leaf.trace t trace way) (itemsLeaves crateName c is)).map output := by
  cases is with
  | nil => rfl
  | cons i rest =>
    rw [items_cons, itemsLeaves, traceLeaves_append, item_eq_output follows c i, items_eq_output follows c rest]
    cases traceLeaves (Leaf.trace t trace way) (itemLeaves crateName c i) with
    | none => rfl
    | some first => exact (map_output_append first _).symm

end

theorem output_entry (t : Tree) (way : List Path) (p : Path) :
    output (entry t way p) =
      { sites := (opened t p).1.filterMap (·.site?)
        diagnostics := (opened t p).1.filterMap (·.diagnostic?)
        files := (opened t p).1.filterMap (·.file?) } := by
  simp only [output, entry, List.filterMap_cons, List.filterMap_map]
  rfl

theorem output_entry_of_error (way : List Path) {p : Path} {e : Files.Fault} (read : t.read p = .error e) :
    (opened t p).2 = none ∧
      output (entry t way p) = .unavailable (.ofFile p) ("failed to read: " ++ e.message) := by
  simp only [output_entry, opened, read]
  exact ⟨trivial, rfl⟩

theorem output_entry_of_unparsed (way : List Path) {p : Path} {text : String} {e : SyntaxError}
    (read : t.read p = .ok text) (fails : Grammar.sourceFile text = .error e) :
    (opened t p).2 = none ∧ output (entry t way p) =
      { files := [p] } ++ .unavailable (.ofFile p) ("failed to parse: " ++ e.message) := by
  simp only [output_entry, opened, read, fails]
  exact ⟨trivial, rfl⟩

theorem opened_of_holds {p : Path} {f : SourceFile} (holds : Holds t p f) :
    opened t p = ([.lists p], some f) := by
  obtain ⟨text, read, parsed⟩ := holds
  simp only [opened, read, parsed]

theorem traceFile_of_holds {n : Nat} {p : Path} {c : ModuleContext} {f : SourceFile} (holds : Holds t p f) :
    traceFile crateName t (n + 1) way p c =
      (traceLeaves (Leaf.trace t (traceFile crateName t n) (way ++ [p]))
        (itemsLeaves crateName (fileContext p c f) f.items)).map (entry t way p ++ ·) := by
  rw [traceFile, opened_of_holds holds]

theorem traceFile_of_none {n : Nat} {p : Path} {c : ModuleContext} (unusable : (opened t p).2 = none) :
    traceFile crateName t (n + 1) way p c = some (entry t way p) := by
  rw [traceFile, unusable]

/-- The outcome of the scan of a file is what its trace says. -/
theorem file_eq_output (crateName : String) (t : Tree) (n : Nat) (way : List Path) :
    Follows (Scan.file crateName t n) (traceFile crateName t n) way := by
  induction n generalizing way with
  | zero => exact fun _ _ => rfl
  | succ n ih =>
    intro p c
    cases read : t.read p with
    | error e =>
      obtain ⟨none, front⟩ := output_entry_of_error way read
      rw [traceFile_of_none none, Option.map_some, front, Scan.file, read]
    | ok text =>
      cases parsed : Grammar.sourceFile text with
      | error e =>
        obtain ⟨none, front⟩ := output_entry_of_unparsed way read parsed
        rw [traceFile_of_none none, Option.map_some, front, Scan.file, read]
        dsimp only
        rw [source, parsed]
        rfl
      | ok f =>
        have holds : Holds t p f := ⟨text, read, parsed⟩
        have front : output (entry t way p) = { files := [p] } := by
          rw [output_entry, opened_of_holds holds]
          rfl
        rw [traceFile_of_holds holds, map_output_append, front, file_of_holds _ holds, items_eq_output (ih _)]

/-! ### Traces in two trees -/

theorem trace_of_more {trace' : FileTrace}
    (more : ∀ p c steps, trace way p c = some steps → trace' way p c = some steps) {l : Leaf} {steps : List Step}
    (walked : l.trace t trace way = some steps) : l.trace t trace' way = some steps := by
  cases l with
  | marks sites => exact walked
  | module c d =>
    rw [Leaf.trace] at walked ⊢
    split at walked
    · obtain ⟨within, walkedWithin, rfl⟩ := Option.map_eq_some_iff.mp walked
      exact Option.map_eq_some_iff.mpr ⟨within, more _ _ within walkedWithin, rfl⟩
    · exact walked

theorem traceLeaves_of_more {visit visit' : Leaf → Option (List Step)}
    (more : ∀ l steps, visit l = some steps → visit' l = some steps) {ls : List Leaf} {steps : List Step}
    (walked : traceLeaves visit ls = some steps) : traceLeaves visit' ls = some steps := by
  induction ls generalizing steps with
  | nil => exact walked
  | cons l rest ih =>
    rw [traceLeaves] at walked ⊢
    obtain ⟨first, own, others⟩ := Option.bind_eq_some_iff.mp walked
    obtain ⟨later, behind, rfl⟩ := Option.map_eq_some_iff.mp others
    rw [more l first own, Option.bind_some, ih behind, Option.map_some]

theorem traceFile_succ (n : Nat) {p : Path} {c : ModuleContext} {steps : List Step}
    (walked : traceFile crateName t n way p c = some steps) : traceFile crateName t (n + 1) way p c = some steps := by
  induction n generalizing way p c steps with
  | zero => cases walked
  | succ n ih =>
    rw [traceFile] at walked ⊢
    split at walked
    · obtain ⟨inside, walkedInside, rfl⟩ := Option.map_eq_some_iff.mp walked
      refine Option.map_eq_some_iff.mpr ⟨inside, ?_, rfl⟩
      exact traceLeaves_of_more (fun l steps => trace_of_more fun p c steps => ih) walkedInside
    · exact walked

/-- The steps of files are taken on ways that start with the way to the file. -/
def Forward (trace : FileTrace) (way : List Path) : Prop :=
  ∀ p c steps, trace way p c = some steps → ∀ s ∈ steps, way <+: s.way

theorem forward_leaf (forward : Forward trace way) {l : Leaf} {steps : List Step}
    (walked : l.trace t trace way = some steps) : ∀ s ∈ steps, way <+: s.way := by
  cases l with
  | marks sites =>
    obtain rfl := Option.some.inj walked
    simp
  | module c d =>
    rw [Leaf.trace] at walked
    split at walked
    · obtain ⟨inside, walkedInside, rfl⟩ := Option.map_eq_some_iff.mp walked
      intro s member
      rcases List.mem_append.mp member with looking | later
      · obtain ⟨q, _, rfl⟩ := List.mem_map.mp looking
        exact List.prefix_refl _
      · exact forward _ _ inside walkedInside s later
    · obtain rfl := Option.some.inj walked
      intro s member
      rcases List.mem_append.mp member with looking | report
      · obtain ⟨q, _, rfl⟩ := List.mem_map.mp looking
        exact List.prefix_refl _
      · obtain ⟨e, _, rfl⟩ := List.mem_map.mp report
        exact List.prefix_refl _

theorem forall_traceLeaves {P : Step → Prop} {visit : Leaf → Option (List Step)}
    (each : ∀ l steps, visit l = some steps → ∀ s ∈ steps, P s) {ls : List Leaf} {steps : List Step}
    (walked : traceLeaves visit ls = some steps) : ∀ s ∈ steps, P s := by
  induction ls generalizing steps with
  | nil =>
    obtain rfl := Option.some.inj walked
    simp
  | cons l rest ih =>
    obtain ⟨first, walkedFirst, others⟩ := Option.bind_eq_some_iff.mp walked
    obtain ⟨later, walkedLater, rfl⟩ := Option.map_eq_some_iff.mp others
    intro s member
    rcases List.mem_append.mp member with here | behind
    · exact each l first walkedFirst s here
    · exact ih walkedLater s behind

/-- All steps inside a file are taken on ways that lead through it. -/
theorem through_of_mem_traceFile (n : Nat) {p : Path} {c : ModuleContext} {steps : List Step}
    (walked : traceFile crateName t n way p c = some steps) :
    ∃ rest, steps = ⟨way, .opens p⟩ :: rest ∧ ∀ s ∈ rest, way ++ [p] <+: s.way := by
  induction n generalizing way p c steps with
  | zero => cases walked
  | succ n ih =>
    have forward (p : Path) : Forward (traceFile crateName t n) (way ++ [p]) := by
      intro q c steps walked s member
      obtain ⟨rest, rfl, inside⟩ := ih walked
      rcases List.mem_cons.mp member with rfl | later
      · exact List.prefix_refl _
      · exact (List.prefix_append _ _).trans (inside s later)
    have front : ∀ s ∈ (opened t p).1.map (Step.mk (way ++ [p])), way ++ [p] <+: s.way := by simp
    rw [traceFile] at walked
    split at walked
    · obtain ⟨inside, walkedInside, rfl⟩ := Option.map_eq_some_iff.mp walked
      refine ⟨_, rfl, fun s member => ?_⟩
      rcases List.mem_append.mp member with here | later
      · exact front s here
      · exact forall_traceLeaves (fun l steps => forward_leaf (forward p)) walkedInside s later
    · obtain rfl := Option.some.inj walked
      exact ⟨_, rfl, front⟩

section Cut

variable {u : Tree} {broken : Path → Bool} {trace' : FileTrace}

/-- A step in a tree and in another one in which some files are broken: the files that are looked for are
there in both or in none, and a file that is opened has the same content unless it is broken. -/
def Agree (t u : Tree) (broken : Path → Bool) : Event → Prop
  | .probes p => u.isFile p = t.isFile p
  | .opens p => if broken p then (opened u p).2 = none else opened u p = opened t p
  | _ => True

/-- What becomes of a step where some files are broken: what leads through them is gone. -/
def cut (u : Tree) (broken : Path → Bool) (s : Step) : List Step :=
  if s.way.any broken then []
  else
    match s.event with
    | .opens p => if broken p then entry u s.way p else [s]
    | _ => [s]

theorem flatMap_cut_of_clear (clear : way.any broken = false) (events : List Event)
    (quiet : ∀ e ∈ events, ∀ p, e ≠ .opens p) :
    (events.map (Step.mk way)).flatMap (cut u broken) = events.map (Step.mk way) := by
  induction events with
  | nil => rfl
  | cons e rest ih =>
    have here : cut u broken ⟨way, e⟩ = [⟨way, e⟩] := by
      cases e with
      | opens p => exact absurd rfl (quiet _ List.mem_cons_self p)
      | probes | lists | finds | reports => simp [cut, clear]
    rw [List.map_cons, List.flatMap_cons, here, ih fun e member => quiet e (List.mem_cons_of_mem _ member)]
    rfl

theorem opened_quiet {p : Path} : ∀ e ∈ (opened t p).1, ∀ q, e ≠ .opens q := by
  unfold opened
  split
  · simp
  · split <;> simp

/-- A scan takes the same steps where the trees agree on what it looks up. -/
def Cuts (t u : Tree) (broken : Path → Bool) (trace trace' : FileTrace) (way : List Path) : Prop :=
  ∀ p c steps, trace way p c = some steps → (∀ s ∈ steps, Agree t u broken s.event) →
    trace' way p c = some (steps.flatMap (cut u broken))

theorem probed_congr {c : ModuleContext} {d : ModuleDecl}
    (same : ∀ q ∈ probed t c d, u.isFile q = t.isFile q) :
    probed u c d = probed t c d ∧ moduleFile? u c d = moduleFile? t c d := by
  unfold probed moduleFile? at *
  cases path : filePath? d.attributes with
  | some p => exact ⟨rfl, rfl⟩
  | none =>
    rw [path] at same
    dsimp only at same ⊢
    cases flat : t.isFile (candidates c (plainName d.name)).1 with
    | true =>
      rw [flat] at same
      have there := (same _ List.mem_cons_self).trans flat
      simp [there]
    | false =>
      rw [flat] at same
      have gone := (same _ List.mem_cons_self).trans flat
      have other := same (candidates c (plainName d.name)).2 (by simp)
      simp [gone, other]

theorem cut_leaf (clear : way.any broken = false) (cuts : Cuts t u broken trace trace' way) {l : Leaf}
    {steps : List Step} (walked : l.trace t trace way = some steps)
    (agree : ∀ s ∈ steps, Agree t u broken s.event) :
    l.trace u trace' way = some (steps.flatMap (cut u broken)) := by
  cases l with
  | marks sites =>
    obtain rfl := Option.some.inj walked
    have same := flatMap_cut_of_clear (u := u) clear (sites.map .finds) (by simp)
    rw [List.map_map] at same
    exact congrArg some same.symm
  | module c d =>
    rw [Leaf.trace] at walked ⊢
    have looking := flatMap_cut_of_clear (u := u) clear ((probed t c d).map .probes) (by simp)
    rw [List.map_map] at looking
    have sameFile (inProbed : ∀ q ∈ probed t c d, (⟨way, .probes q⟩ : Step) ∈ steps) :=
      probed_congr (u := u) fun q member => agree _ (inProbed q member)
    cases found : moduleFile? t c d with
    | none =>
      rw [found] at walked
      obtain rfl := Option.some.inj walked
      obtain ⟨probes, file⟩ := sameFile fun q member => List.mem_append_left _ (List.mem_map_of_mem member)
      have report := flatMap_cut_of_clear (u := u) clear (missing c d) (by simp [missing])
      rw [file, found, probes, List.flatMap_append, report]
      exact congrArg (fun front => some (front ++ _)) looking.symm
    | some r =>
      rw [found] at walked
      obtain ⟨inside, walkedInside, rfl⟩ := Option.map_eq_some_iff.mp walked
      obtain ⟨probes, file⟩ := sameFile fun q member => List.mem_append_left _ (List.mem_map_of_mem member)
      have below := cuts r.1 r.2 inside walkedInside fun s member => agree s (List.mem_append_right _ member)
      rw [file, found, probes, List.flatMap_append]
      dsimp only
      rw [below, Option.map_some]
      exact congrArg (fun front => some (front ++ _)) looking.symm

theorem cut_traceLeaves (clear : way.any broken = false) (cuts : Cuts t u broken trace trace' way)
    {ls : List Leaf} {steps : List Step} (walked : traceLeaves (Leaf.trace t trace way) ls = some steps)
    (agree : ∀ s ∈ steps, Agree t u broken s.event) :
    traceLeaves (Leaf.trace u trace' way) ls = some (steps.flatMap (cut u broken)) := by
  induction ls generalizing steps with
  | nil =>
    obtain rfl := Option.some.inj walked
    rfl
  | cons l rest ih =>
    obtain ⟨first, walkedFirst, others⟩ := Option.bind_eq_some_iff.mp walked
    obtain ⟨later, walkedLater, rfl⟩ := Option.map_eq_some_iff.mp others
    have here := cut_leaf clear cuts walkedFirst fun s member => agree s (List.mem_append_left _ member)
    have behind := ih walkedLater fun s member => agree s (List.mem_append_right _ member)
    rw [traceLeaves, here, behind, List.flatMap_append]
    rfl

/-- The trace of a scan in a tree with broken files is that in the tree without them, where what leads through
broken files is gone. -/
theorem traceFile_cut (crateName : String) (n : Nat) (clear : way.any broken = false) :
    Cuts t u broken (traceFile crateName t n) (traceFile crateName u n) way := by
  -- On the number of levels; a step inside a file lies on a way that ends with it, which is clear as long as no
  -- file on the way is broken.
  induction n generalizing way with
  | zero =>
    intro p c steps walked
    cases walked
  | succ n ih =>
    intro p c steps walked agree
    obtain ⟨rest, rfl, through⟩ := through_of_mem_traceFile _ walked
    have opening : Agree t u broken (.opens p) := agree _ List.mem_cons_self
    cases lost : broken p with
    | true =>
      -- Nothing but the opening is left of the file.
      have gone : rest.flatMap (cut u broken) = [] := by
        refine List.flatMap_eq_nil_iff.mpr fun s member => if_pos ?_
        exact List.any_eq_true.mpr ⟨p, (through s member).subset (by simp), lost⟩
      have front : cut u broken ⟨way, .opens p⟩ = entry u way p := by simp [cut, clear, lost]
      rw [Agree, if_pos lost] at opening
      rw [traceFile_of_none opening, List.flatMap_cons, front, gone, List.append_nil]
    | false =>
      rw [Agree, lost, if_neg Bool.false_ne_true] at opening
      have inner : (way ++ [p]).any broken = false := by simp [clear, lost]
      have front : (entry t way p).flatMap (cut u broken) = entry u way p := by
        have first : cut u broken ⟨way, .opens p⟩ = [⟨way, .opens p⟩] := by simp [cut, clear, lost]
        rw [entry, List.flatMap_cons, first, flatMap_cut_of_clear inner _ opened_quiet, entry, opening]
        rfl
      rw [traceFile] at walked ⊢
      rw [opening]
      cases content : (opened t p).2 with
      | none =>
        rw [content] at walked
        rw [← Option.some.inj walked, front]
      | some f =>
        rw [content] at walked
        obtain ⟨inside, walkedInside, whole⟩ := Option.map_eq_some_iff.mp walked
        rw [← whole] at agree ⊢
        have below := cut_traceLeaves inner (ih inner) walkedInside fun s member =>
          agree s (List.mem_append_right _ member)
        dsimp only
        rw [below, List.flatMap_append, front]
        rfl

end Cut

end SlotBinding.Scan

namespace SlotBinding

open Files (Path Tree)

def traceCrate (levels : Nat) (t : Tree) (crateName : String) (root : Path) : Option (List Scan.Step) :=
  Scan.traceFile (Scan.pathCrateName crateName) t levels [] root (rootContext root)

theorem scanCrate_eq_output (levels : Nat) (t : Tree) (crateName : String) (root : Path) :
    scanCrate levels t crateName root = (traceCrate levels t crateName root).map Scan.output :=
  Scan.file_eq_output _ t levels [] root (rootContext root)

/-- The steps of a scan that ends within some levels are those that it takes within all that there are. -/
theorem traceCrate_levelsFor {n : Nat} {t : Tree} {crateName : String} {root : Path} {steps : List Scan.Step}
    (walked : traceCrate n t crateName root = some steps) :
    traceCrate (levelsFor t) t crateName root = some steps := by
  have longer {m k : Nat} (more : m ≤ k) {steps : List Scan.Step}
      (walked : traceCrate m t crateName root = some steps) : traceCrate k t crateName root = some steps := by
    induction more with
    | refl => exact walked
    | step _ ih => exact Scan.traceFile_succ _ ih
  have scanned : scanCrate n t crateName root = some (Scan.output steps) := by
    rw [scanCrate_eq_output, walked, Option.map_some]
  have enough := scanCrate_levelsFor scanned
  rw [scanCrate_eq_output] at enough
  obtain ⟨own, walkedOwn, -⟩ := Option.map_eq_some_iff.mp enough
  have same := (longer (Nat.le_max_left n _) walked).symm.trans (longer (Nat.le_max_right n _) walkedOwn)
  rw [walkedOwn, Option.some.inj same]

end SlotBinding
