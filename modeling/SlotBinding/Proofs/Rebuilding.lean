import SlotBinding.Proofs.DirectorySteps
import SlotBinding.Proofs.ScanTrace
import SlotBinding.Proofs.UniqueNames

/-!
# Rebuilding

A pass that is made again over its own results asks for the same creations, gets the same answers and changes
nothing; so does a whole run whose scan finds what it found before. `generate_again` says so, and that the table
of a run only includes what the run has written.
-/

namespace SlotBinding

open Files (Content Path Trail Tree)
open Files.Tree (Advance Grows Strays file_of_walk find_keeps find_of_sound sound_of_find start)

/-! ### The same pass again -/

namespace Generator

variable {g : Generator} {sites : List Site} {s t : DirectorySink} {cs : List Creation}

theorem exists_artifactName {m : HostModel} {text file : String} (made : g.artifact m = .ok (text, file)) :
    ∃ x, ArtifactName file [artifactDir] x := by
  obtain ⟨x, _, artifact⟩ := artifactName_of_artifactPath (artifact_ok made).2
  exact ⟨x, artifact⟩

/-- The creations of a pass leave the sink in its directory and only add to the tree. -/
theorem advance_creates (creates : Creates g DirectorySink.sink s cs t) :
    t.root = s.root ∧ Advance s.root s.tree t.tree := by
  induction creates with
  | nil => exact ⟨rfl, .refl _ _⟩
  | @cons s next t c rest made answered tail ih =>
    obtain ⟨x, artifact⟩ := exists_artifactName made
    obtain rfl : (s.create c.file c.text).1 = next := congrArg Prod.fst answered
    obtain ⟨root, later⟩ := ih
    rw [DirectorySink.root_create] at root later
    exact ⟨root, (DirectorySink.advance_create artifact).trans later⟩

theorem not_strays_creates (creates : Creates g DirectorySink.sink s cs t) (steady : ¬Strays s.tree s.root) :
    ¬Strays t.tree s.root := by
  induction creates with
  | nil => exact steady
  | @cons s next t c rest made answered tail ih =>
    obtain ⟨x, artifact⟩ := exists_artifactName made
    obtain rfl : (s.create c.file c.text).1 = next := congrArg Prod.fst answered
    rw [DirectorySink.root_create] at ih
    exact ih (DirectorySink.not_strays_create artifact steady)

theorem stores_creates (creates : Creates g DirectorySink.sink s cs t) {name text : String} {d : Trail}
    (stores : Stores s.tree s.root name text d) (created : name ∈ s.created) : Stores t.tree s.root name text d := by
  induction creates with
  | nil => exact stores
  | @cons s next t c rest made answered tail ih =>
    obtain ⟨x, artifact⟩ := exists_artifactName made
    obtain rfl : (s.create c.file c.text).1 = next := congrArg Prod.fst answered
    rw [DirectorySink.root_create] at ih
    exact ih (DirectorySink.stores_create artifact stores created)
      (DirectorySink.remembers.keeps created c.file c.text)

theorem stores_of_creates (creates : Creates g DirectorySink.sink s cs t) {c : Creation} (member : c ∈ cs)
    (written : c.answer = none) : ∃ d, Stores t.tree s.root c.file c.text d := by
  induction creates with
  | nil => cases member
  | @cons s next t d rest made answered tail ih =>
    obtain ⟨x, artifact⟩ := exists_artifactName made
    obtain rfl : (s.create d.file d.text).1 = next := congrArg Prod.fst answered
    rw [DirectorySink.root_create] at ih
    rcases List.mem_cons.mp member with rfl | later
    · have none : (s.create c.file c.text).2 = none := (congrArg Prod.snd answered).trans written
      obtain ⟨e, stores⟩ := DirectorySink.stores_of_created artifact none
      rw [← DirectorySink.root_create s c.file c.text] at stores ⊢
      exact ⟨e, stores_creates tail stores (DirectorySink.remembers.takes none)⟩
    · exact ih later

/-- The creations of a pass are made again in a tree that holds what they have written. -/
theorem creates_again (creates : Creates g DirectorySink.sink s cs t) (steady : ¬Strays s.tree s.root) {w : Tree}
    (grows : Grows t.tree w) (stores : ∀ c ∈ cs, c.answer = none → ∃ d, Stores w s.root c.file c.text d) :
    Creates g DirectorySink.sink { s with tree := w } cs { t with tree := w } := by
  induction creates with
  | nil => exact .nil _
  | @cons s next t c rest made answered tail ih =>
    obtain ⟨x, artifact⟩ := exists_artifactName made
    obtain ⟨here, later⟩ := List.forall_mem_cons.mp stores
    obtain ⟨next_eq, answer⟩ := Prod.mk.inj answered
    obtain rfl : (s.create c.file c.text).1 = next := next_eq
    have answer_eq : (s.create c.file c.text).2 = c.answer := answer
    -- The tree of the second pass is past all that the creations after this one add.
    have between := (advance_creates tail).2.grows.trans grows
    have again := DirectorySink.create_again artifact steady between fun none => here (answer_eq ▸ none)
    rw [answer_eq] at again
    rw [DirectorySink.root_create] at ih
    have rest := ih (DirectorySink.not_strays_create artifact steady) grows later
    rw [← DirectorySink.root_create s c.file c.text] at rest
    exact .cons made again rest

theorem writeModels_of_creates {σ : Type u} {k : Sink σ} {s t : σ} (creates : Creates g k s cs t) :
    g.writeModels k (cs.map (·.model)) s = (.ok (.ofCreations cs), t) := by
  induction creates with
  | nil => rfl
  | cons made answered tail ih =>
    simp only [List.map_cons, writeModels, made, answered, ih]
    rfl

namespace PassTrace

theorem runPass_eq {σ : Type u} {k : Sink σ} {s t : σ} (p : PassTrace g sites k s t) :
    g.runPass sites k s = (.ok p.report, t) := by
  have wrote := writeModels_of_creates p.creates
  rw [p.models] at wrote
  have written : (WriteLog.ofCreations p.creations).written = (p.creations.filter (·.isWritten)).map (·.model) :=
    congrArg WriteLog.written (ofCreations_eq p.creations)
  simp only [runPass, wrote, writeTable, written, p.table, p.created]
  rfl

theorem tree_eq (p : PassTrace g sites DirectorySink.sink s t) :
    t.tree = (p.middle.create tableFile p.tableText).1.tree :=
  congrArg (fun r : DirectorySink × Option ArtifactError => r.1.tree) p.created.symm

theorem answer_eq (p : PassTrace g sites DirectorySink.sink s t) :
    (p.middle.create tableFile p.tableText).2 = p.tableAnswer :=
  congrArg Prod.snd p.created

theorem advance (p : PassTrace g sites DirectorySink.sink s t) : Advance s.root s.tree t.tree := by
  obtain ⟨root, first⟩ := advance_creates p.creates
  have second : Advance p.middle.root p.middle.tree (p.middle.create tableFile p.tableText).1.tree :=
    DirectorySink.advance_create artifactName_tableFile
  rw [root] at second
  rw [p.tree_eq]
  exact first.trans second

theorem stores (p : PassTrace g sites DirectorySink.sink s t) :
    (∀ c ∈ p.creations, c.answer = none → ∃ d, Stores t.tree s.root c.file c.text d) ∧
      (p.tableAnswer = none → ∃ d, Stores t.tree s.root tableFile p.tableText d) := by
  obtain ⟨root, _⟩ := advance_creates p.creates
  rw [← root, p.tree_eq]
  constructor
  · intro c member written
    obtain ⟨d, stores⟩ := stores_of_creates p.creates member written
    rw [← root] at stores
    have created : c.file ∈ p.middle.created := taken_of_written DirectorySink.remembers p.creates member written
    exact ⟨d, DirectorySink.stores_create artifactName_tableFile stores created⟩
  · intro written
    exact DirectorySink.stores_of_created artifactName_tableFile (p.answer_eq.trans written)

/-- A pass over its own results is the same pass, and changes nothing. -/
theorem exists_again (p : PassTrace g sites DirectorySink.sink s t) (steady : ¬Strays s.tree s.root) :
    ∃ again : PassTrace g sites DirectorySink.sink { s with tree := t.tree } t, again.report = p.report := by
  obtain ⟨root, _⟩ := advance_creates p.creates
  obtain ⟨hosts, table⟩ := p.stores
  have steadyMiddle := not_strays_creates p.creates steady
  rw [← root] at steadyMiddle table
  have last : Grows p.middle.tree t.tree := by
    rw [p.tree_eq]
    exact (DirectorySink.advance_create artifactName_tableFile).grows
  have created := DirectorySink.create_again artifactName_tableFile steadyMiddle (w := t.tree)
    (by rw [← p.tree_eq]; exact .refl _) fun none => table (p.answer_eq.symm.trans none)
  rw [show DirectorySink.create p.middle tableFile p.tableText = (t, p.tableAnswer) from p.created] at created
  exact ⟨{ p with
    middle := { p.middle with tree := t.tree }
    creates := creates_again p.creates steady last hosts
    created }, rfl⟩

end PassTrace

end Generator

/-! ### The same scan again -/

/-- The paths that a run looks up: the files in which the crate can start up to the first one that is there, those
where its scan looks for a file, and those that the scan opens. -/
def lookupsWithin (levels : Nat) (c : Config) (t : Tree) (manifestDir : Path) : List Path :=
  (crateRoots.map manifestDir.join).takeWhile (fun p => !t.isFile p) ++
    match crateRoot t manifestDir with
    | .error _ => []
    | .ok root =>
      match traceCrate levels t c.crateName root with
      | none => []
      | some steps => Scan.probedPaths steps ++ Scan.openedPaths steps

def lookups (c : Config) (t : Tree) (manifestDir : Path) : List Path :=
  lookupsWithin (levelsFor t) c t manifestDir

def leadsOutside (t w : Tree) (outDir p : Path) : Bool :=
  match t.find p, w.walk (start outDir) outDir.parts with
  | .ok (.file trail _), .ok (.directory d) => !d.isPrefixOf trail
  | _, _ => true

/-- Of the files that were looked up, none is in the directory that is written to. -/
def ReadsOutside (t w : Tree) (outDir : Path) (looked : List Path) : Prop :=
  ∀ p ∈ looked, leadsOutside t w outDir p = true

/-- What was missing when it was looked up is still missing. -/
def StillMissing (t w : Tree) (looked : List Path) : Prop :=
  ∀ p ∈ looked, t.read p = .error .notFound → w.read p = .error .notFound

instance (t w : Tree) (outDir : Path) (looked : List Path) : Decidable (ReadsOutside t w outDir looked) :=
  inferInstanceAs (Decidable (∀ p ∈ looked, leadsOutside t w outDir p = true))

instance (t w : Tree) (looked : List Path) : Decidable (StillMissing t w looked) :=
  inferInstanceAs (Decidable (∀ p ∈ looked, t.read p = .error .notFound → w.read p = .error .notFound))

section

variable {t w : Tree} {outDir manifestDir root p : Path} {looked : List Path} {c : Config}

theorem isFile_of_read (missing : t.read p = .error .notFound) : t.isFile p = false := by
  unfold Files.Tree.read at missing
  unfold Files.Tree.isFile
  split
  · rename_i trail content found
    rw [found] at missing
    cases content <;> cases missing
  · rfl

theorem found_again (outside : ReadsOutside t w outDir looked) (missing : StillMissing t w looked)
    (advance : Advance outDir t w) (member : p ∈ looked) : w.read p = t.read p ∧ w.isFile p = t.isFile p := by
  have again (gone : t.read p = .error .notFound) : w.read p = t.read p ∧ w.isFile p = t.isFile p := by
    have still := missing p member gone
    exact ⟨still.trans gone.symm, (isFile_of_read still).trans (isFile_of_read gone).symm⟩
  have equal (same : w.find p = t.find p) : w.read p = t.read p ∧ w.isFile p = t.isFile p := by
    simp only [Files.Tree.read, Files.Tree.isFile, same, and_self]
  have keeps := find_keeps advance.grows p
  cases found : t.find p with
  | error f =>
    rw [found] at keeps
    rcases keeps with rfl | same
    · exact again (by simp only [Files.Tree.read, found])
    · exact equal (same.trans found.symm)
  | ok place =>
    rw [found] at keeps
    cases place with
    | directory trail => exact equal (Eq.trans keeps found.symm)
    | free trail => exact again (by simp only [Files.Tree.read, found])
    | file trail content =>
      obtain ⟨content', later⟩ := keeps
      have held : t.entry? trail = some (.file content) := by
        rw [find_of_sound (sound_of_find found)] at found
        exact file_of_walk found
      have after : w.entry? trail = some (.file content') := by
        rw [find_of_sound (sound_of_find later)] at later
        exact file_of_walk later
      -- Other content than before can only be in a file of the directory.
      obtain same | ⟨d, leads, below⟩ := advance.frame trail content held
      · rw [after] at same
        obtain rfl : content' = content := by simpa using same
        exact equal (later.trans found.symm)
      · have apart := outside p member
        rw [leadsOutside, found, leads] at apart
        simp [List.isPrefixOf_iff_prefix.mpr below] at apart

theorem find?_congr {α : Type u} {f g : α → Bool} {xs : List α} {x : α} (found : xs.find? f = some x)
    (same : ∀ y ∈ xs.takeWhile (fun y => !f y), g y = f y) (last : g x = f x) : xs.find? g = some x := by
  induction xs with
  | nil => cases found
  | cons y rest ih =>
    rw [List.find?_cons] at found ⊢
    rw [List.takeWhile_cons] at same
    cases here : f y with
    | true =>
      rw [here] at found
      obtain rfl : y = x := by simpa using found
      rw [last, here]
    | false =>
      rw [here] at found same
      obtain ⟨first, others⟩ := List.forall_mem_cons.mp same
      rw [first, here]
      exact ih found others

theorem crateRoot_again (start : crateRoot t manifestDir = .ok root)
    (same : ∀ p ∈ (crateRoots.map manifestDir.join).takeWhile (fun p => !t.isFile p), w.isFile p = t.isFile p)
    (last : w.isFile root = t.isFile root) : crateRoot w manifestDir = .ok root := by
  unfold crateRoot at start ⊢
  cases found : (crateRoots.map manifestDir.join).find? t.isFile with
  | none =>
    rw [found] at start
    cases start
  | some other =>
    rw [found] at start
    obtain rfl := Except.ok.inj start
    rw [find?_congr found same last]

theorem opened_of_read (same : w.read p = t.read p) : Scan.opened w p = Scan.opened t p := by
  simp only [Scan.opened, same]

theorem traceCrate_again {n : Nat} {crateName : String} {steps : List Scan.Step}
    (walked : traceCrate n t crateName root = some steps)
    (probes : ∀ p ∈ Scan.probedPaths steps, w.isFile p = t.isFile p)
    (opens : ∀ p ∈ Scan.openedPaths steps, w.read p = t.read p) :
    traceCrate n w crateName root = some steps := by
  have agree : ∀ s ∈ steps, Scan.Agree t w (fun _ => false) s.event := by
    intro s member
    cases happens : s.event with
    | probes p => exact probes p (Scan.mem_probedPaths member happens)
    | opens p => exact opened_of_read (opens p (Scan.mem_openedPaths member happens))
    | lists | finds | reports => trivial
  have cut := Scan.traceFile_cut (Scan.pathCrateName crateName) n rfl root (rootContext root) steps walked agree
  have whole : steps.flatMap (Scan.cut w fun _ => false) = steps := by
    refine (List.flatMap_congr fun s _ => ?_).trans (List.flatMap_singleton' steps)
    unfold Scan.cut
    cases s.event <;> simp
  rwa [whole] at cut

theorem mem_openedPaths_root {n : Nat} {crateName : String} {steps : List Scan.Step}
    (walked : traceCrate n t crateName root = some steps) : root ∈ Scan.openedPaths steps := by
  obtain ⟨rest, rfl, _⟩ := Scan.through_of_mem_traceFile n walked
  exact Scan.mem_openedPaths List.mem_cons_self rfl

end

/-! ### The table of a run -/

/-- The table includes nothing but files that hold the sources of hosts of the pass. -/
structure Indexed (g : Generator) (sites : List Site) (w : Tree) (outDir : Path) (es : List TableEntry)
    (text : String) : Prop where
  table : w.read (outDir.join tableFile) = .ok text
  tabulates : g.renderer.Tabulates es text
  included : ∀ e ∈ es, ∃ m ∈ (g.group sites).models.values, TableEntry.Of m e ∧
    ∃ source, g.renderer.binder m = .ok source ∧ w.read (outDir.join e.file) = .ok source

theorem exists_of_forall₂ {α : Type u} {β : Type v} {R : α → β → Prop} {xs : List α} {ys : List β}
    (all : List.Forall₂ R xs ys) : ∀ y ∈ ys, ∃ x ∈ xs, R x y := by
  induction all with
  | nil => simp
  | cons first _ ih =>
    refine List.forall_mem_cons.mpr ⟨⟨_, List.mem_cons_self, first⟩, fun y member => ?_⟩
    obtain ⟨x, among, related⟩ := ih y member
    exact ⟨x, List.mem_cons_of_mem _ among, related⟩

theorem Generator.PassTrace.exists_indexed {g : Generator} {sites : List Site} {s t : DirectorySink}
    (p : PassTrace g sites DirectorySink.sink s t) (written : p.tableAnswer = none) :
    ∃ es, Indexed g sites t.tree s.root es p.tableText := by
  obtain ⟨es, own, tabulates⟩ := Renderer.tabulates_of_table p.table
  obtain ⟨hosts, table⟩ := p.stores
  obtain ⟨_, stored⟩ := table written
  refine ⟨es, stored.read_eq, tabulates, fun e member => ?_⟩
  obtain ⟨m, among, entry⟩ := exists_of_forall₂ own e member
  obtain ⟨c, asked, rfl⟩ := List.mem_map.mp among
  obtain ⟨there, answered⟩ := List.mem_filter.mp asked
  obtain ⟨source, path⟩ := artifact_ok (creates_made p.creates c there)
  obtain ⟨_, stores⟩ := hosts c there (Option.isNone_iff_eq_none.mp answered)
  have file : e.file = c.file := by
    have paths := entry.file
    rw [path] at paths
    exact (Except.ok.inj paths).symm
  exact ⟨c.model, p.mem_models there, entry, c.text, source, file ▸ stores.read_eq⟩

/-! ### The same run again -/

section

variable {c : Config} {t w : Tree} {manifestDir outDir : Path} {r : Report}

/-- What a run that ends with a report has done. -/
structure BuildTrace (c : Config) (t : Tree) (manifestDir outDir : Path) where
  root : Path
  generator : Generator
  scanned : ScanOutput
  sink : DirectorySink
  start : crateRoot t manifestDir = .ok root
  configured : Generator.ofConfig c = .ok generator
  scan : scanCrate (levelsFor t) t c.crateName root = some scanned
  pass : Generator.PassTrace generator scanned.sites DirectorySink.sink (.fresh outDir t) sink

def BuildTrace.report (b : BuildTrace c t manifestDir outDir) : Report := mergedReport b.scanned b.pass.report

theorem exists_buildTrace (ran : generate c t manifestDir outDir = (.ok r, w)) :
    ∃ b : BuildTrace c t manifestDir outDir, r = b.report ∧ w = b.sink.tree := by
  unfold generate generateWithin at ran
  cases start : crateRoot t manifestDir with
  | error e =>
    rw [start] at ran
    cases (Prod.mk.inj ran).1
  | ok root =>
    cases configured : Generator.ofConfig c with
    | error e =>
      rw [start, configured] at ran
      cases (Prod.mk.inj ran).1
    | ok g =>
      rw [start, configured] at ran
      dsimp only at ran
      cases scan : scanCrate (levelsFor t) t c.crateName root with
      | none =>
        rw [scan] at ran
        cases (Prod.mk.inj ran).1
      | some scanned =>
        rw [scan] at ran
        dsimp only at ran
        cases passed : g.runPass scanned.sites DirectorySink.sink (.fresh outDir t) with
        | mk answer s =>
          rw [passed] at ran
          cases answer with
          | error f => cases (Prod.mk.inj ran).1
          | ok pass =>
            obtain ⟨report, tree⟩ := Prod.mk.inj ran
            obtain ⟨p, rfl⟩ := Generator.runPass_ok passed
            exact ⟨⟨root, g, scanned, s, start, configured, scan, p⟩, (Except.ok.inj report).symm, tree.symm⟩

/-- A run that ends with a report within some levels does what it does within all that there are. -/
theorem of_generateWithin_ok {n : Nat} (ran : generateWithin n c t manifestDir outDir = (.ok r, w)) :
    generate c t manifestDir outDir = (.ok r, w) ∧ lookups c t manifestDir = lookupsWithin n c t manifestDir := by
  cases start : crateRoot t manifestDir with
  | error e =>
    rw [generateWithin, start] at ran
    cases (Prod.mk.inj ran).1
  | ok root =>
    cases walked : traceCrate n t c.crateName root with
    | none =>
      have scan : scanCrate n t c.crateName root = none := by rw [scanCrate_eq_output, walked, Option.map_none]
      simp only [generateWithin, start, scan] at ran
      split at ran <;> cases (Prod.mk.inj ran).1
    | some steps =>
      have enough := traceCrate_levelsFor walked
      refine ⟨?_, by simp only [lookups, lookupsWithin, start, walked, enough]⟩
      simp only [generate, generateWithin, start, scanCrate_eq_output, walked, enough] at ran ⊢
      exact ran

namespace BuildTrace

theorem generate_eq (b : BuildTrace c t manifestDir outDir) :
    generate c t manifestDir outDir = (.ok b.report, b.sink.tree) := by
  simp only [generate, generateWithin, b.start, b.configured, b.scan, b.pass.runPass_eq, report]

/-- A run finds again what it found if it does not change what it looked up. -/
theorem scan_again (b : BuildTrace c t manifestDir outDir)
    (outside : ReadsOutside t b.sink.tree outDir (lookups c t manifestDir))
    (missing : StillMissing t b.sink.tree (lookups c t manifestDir)) :
    crateRoot b.sink.tree manifestDir = .ok b.root ∧
      scanCrate (levelsFor b.sink.tree) b.sink.tree c.crateName b.root = some b.scanned := by
  have advance : Advance outDir t b.sink.tree := b.pass.advance
  have traced := b.scan
  rw [scanCrate_eq_output] at traced
  obtain ⟨steps, walked, outcome⟩ := Option.map_eq_some_iff.mp traced
  have looked : lookups c t manifestDir =
      (crateRoots.map manifestDir.join).takeWhile (fun p => !t.isFile p) ++
        (Scan.probedPaths steps ++ Scan.openedPaths steps) := by
    simp only [lookups, lookupsWithin, b.start, walked]
  have same {p : Path} (member : p ∈ lookups c t manifestDir) := found_again outside missing advance member
  have front {p : Path} (member : p ∈ (crateRoots.map manifestDir.join).takeWhile (fun p => !t.isFile p)) :
      p ∈ lookups c t manifestDir := by
    rw [looked]
    exact List.mem_append_left _ member
  have probed {p : Path} (member : p ∈ Scan.probedPaths steps) : p ∈ lookups c t manifestDir := by
    rw [looked]
    exact List.mem_append_right _ (List.mem_append_left _ member)
  have opened {p : Path} (member : p ∈ Scan.openedPaths steps) : p ∈ lookups c t manifestDir := by
    rw [looked]
    exact List.mem_append_right _ (List.mem_append_right _ member)
  have root := same (opened (mem_openedPaths_root walked))
  refine ⟨crateRoot_again b.start (fun p member => (same (front member)).2) root.2, ?_⟩
  -- The levels of the first run were enough, so those of the second one are, too.
  apply scanCrate_levelsFor
  rw [scanCrate_eq_output, traceCrate_again walked (fun p member => (same (probed member)).2)
    (fun p member => (same (opened member)).1), Option.map_some, outcome]

theorem tableAnswer_of_table (b : BuildTrace c t manifestDir outDir) (listed : b.report.table.isSome = true) :
    b.pass.tableAnswer = none := by
  have table : b.report.table = if b.pass.tableAnswer.isNone then some tableFile else none := rfl
  cases answer : b.pass.tableAnswer with
  | none => rfl
  | some e =>
    rw [table, answer] at listed
    cases listed

end BuildTrace

/-- A run that ends with a report, in any tree. A second run over its results has the same report and leaves the
whole tree as it is, if the first one has read no file in the directory that it writes to, has made nothing that it
had looked for in vain, and if the path of its directory does not stray. The table of the run, where there is one,
includes only files that the run has written, whatever else there was in the directory. -/
theorem generate_again (ran : generate c t manifestDir outDir = (.ok r, w)) :
    (ReadsOutside t w outDir (lookups c t manifestDir) → StillMissing t w (lookups c t manifestDir) →
      ¬Strays t outDir → generate c w manifestDir outDir = (.ok r, w)) ∧
    (r.table.isSome = true → ∃ g root scanned es text, Generator.ofConfig c = .ok g ∧
      crateRoot t manifestDir = .ok root ∧ scanCrate (levelsFor t) t c.crateName root = some scanned ∧
      Indexed g scanned.sites w outDir es text) := by
  obtain ⟨b, rfl, rfl⟩ := exists_buildTrace ran
  constructor
  · intro outside missing steady
    obtain ⟨start, scan⟩ := b.scan_again outside missing
    obtain ⟨again, same⟩ := b.pass.exists_again steady
    let later : BuildTrace c b.sink.tree manifestDir outDir :=
      ⟨b.root, b.generator, b.scanned, b.sink, start, b.configured, scan, again⟩
    have report : later.report = b.report := congrArg (mergedReport b.scanned) same
    rw [later.generate_eq, report]
  · intro listed
    obtain ⟨es, indexed⟩ := b.pass.exists_indexed (b.tableAnswer_of_table listed)
    exact ⟨b.generator, b.root, b.scanned, es, _, b.configured, b.start, b.scan, indexed⟩

/-- A run over leftovers of another one, of which a directory stands in the way of one host. -/
theorem generate_again_over_leftovers :
    let c := Config.ofCrate "app"
    let t := Tree.ofList
      [("src/lib.rs", .file (.text "mod a; pub struct H \x7b #[bind(1)] pub x: L \x7d")),
        ("src/a.rs", .file (.text "pub struct A \x7b #[bind(2)] pub y: L \x7d")),
        ("out/viewbind.rs", .file (.text "old")), ("out/viewbind/app__G__Bind.rs", .file (.text "old")),
        ("out/viewbind/app__H__Bind.rs", .file (.text "old")), ("out/viewbind/app__a__A__Bind.rs", .directory)]
    ∃ r w, generate c t "." "out" = (.ok r, w) ∧ r.artifacts.length = 1 ∧ r.diagnostics.length = 1 ∧
      generate c w "." "out" = (.ok r, w) ∧
      ∃ g root scanned es text, Generator.ofConfig c = .ok g ∧ crateRoot t "." = .ok root ∧
        scanCrate (levelsFor t) t c.crateName root = some scanned ∧ Indexed g scanned.sites w "out" es text := by
  intro c t
  let x := generateWithin 2 c t "." "out"
  obtain ⟨r, w, within, checked⟩ := exists_run_of_both (x := x) (p := fun r w =>
    decide (r.artifacts.length = 1 ∧ r.diagnostics.length = 1 ∧ r.table.isSome = true ∧
      ReadsOutside t w "out" (lookupsWithin 2 c t ".") ∧ StillMissing t w (lookupsWithin 2 c t ".")))
    (by decide +kernel)
  obtain ⟨ran, looked⟩ := of_generateWithin_ok within
  rw [← looked] at checked
  obtain ⟨one, failure, listed, outside, missing⟩ := of_decide_eq_true checked
  have steady : ¬Strays t "out" := Files.Tree.not_strays_of_directory (d := ["work", "out"]) (by decide +kernel)
  obtain ⟨again, table⟩ := generate_again ran
  exact ⟨r, w, ran, one, failure, again outside missing steady, table listed⟩

/-- Where the directory is missing, a path over it leads to a file only once it is made. And where the path of the
directory strays, something else is in the way of the second run than in that of the first one. -/
theorem generate_differs_again :
    let c := Config.ofCrate "app"
    let missing := Tree.ofList
      [("src/lib.rs", .file (.text "#[path = \"../x/../foo.rs\"] mod foo;")),
        ("foo.rs", .file (.text "pub struct H \x7b #[bind(1)] pub x: L \x7d"))]
    let astray := Tree.ofList [("src/lib.rs", .file (.text "")), ("f", .file (.text ""))]
    ∀ input ∈ [(missing, "x"), (astray, "x/../f/y")], ∃ first w second v,
      generate c input.1 "." input.2 = (.ok first, w) ∧ generate c w "." input.2 = (.ok second, v) ∧
      ReadsOutside input.1 w input.2 (lookups c input.1 ".") ∧ ReadsOutside w v input.2 (lookups c w ".") ∧
      second ≠ first := by
  intro c missing astray
  have differs : ∀ input ∈ [(missing, "x"), (astray, "x/../f/y")],
      let first := generateWithin 2 c input.1 "." input.2
      let second := generateWithin 2 c first.2 "." input.2
      first.1.toOption.any (fun r => second.1.toOption.any fun r' =>
        decide (ReadsOutside input.1 first.2 input.2 (lookupsWithin 2 c input.1 ".") ∧
          ReadsOutside first.2 second.2 input.2 (lookupsWithin 2 c first.2 ".") ∧ r' ≠ r)) = true := by
    decide +kernel
  intro input member
  obtain ⟨first, w, within, checked⟩ := exists_run_of_any (differs input member)
  rw [within] at checked
  obtain ⟨second, v, withinAgain, checks⟩ := exists_run_of_any checked
  obtain ⟨ran, looked⟩ := of_generateWithin_ok within
  obtain ⟨again, lookedAgain⟩ := of_generateWithin_ok withinAgain
  rw [withinAgain, ← looked, ← lookedAgain] at checks
  obtain ⟨outside, outsideAgain, other⟩ := of_decide_eq_true checks
  exact ⟨first, w, second, v, ran, again, outside, outsideAgain, other⟩

end

end SlotBinding
