import SlotBinding.Proofs.Conservation
import SlotBinding.Proofs.Names
import SlotBinding.Scan.Crate

/-!
# Hosts that ask for one file

A pass writes its hosts in the order of their names, so of the hosts that ask for one file the first one
gets it and the others are refused. `runPass_refuses_collisions` says which hosts these are.
-/

namespace SlotBinding

namespace Generator

variable {g : Generator} {sites : List Site} {s : MemorySink} {r : Report}

/-! ### The answers of a fresh sink -/

/-- An earlier host of the pass has the file. -/
def Taken (g : Generator) (sites : List Site) (m : HostModel) (file : String) : Prop :=
  ∃ n ∈ (g.group sites).models.values, n.qualifiedName < m.qualifiedName ∧ n.artifactPath = .ok file

/-- The report says that the file was there and has no artifact of the host. -/
def Refused (r : Report) (m : HostModel) (file : String) : Prop :=
  hostFailure m (.alreadyExists file) ∈ r.diagnostics ∧ ∀ a ∈ r.artifacts, a.host ≠ m.qualifiedName

theorem not_taken {crate : String}
    (separable : ∀ v ∈ sites.filterMap (·.valid?), v.host.crateName = crate ∧
      Words (v.host.modulePath ++ [v.host.name]) ∧ Separable (v.host.modulePath ++ [v.host.name]))
    (m : HostModel) (member : m ∈ (g.group sites).models.values) (file : String)
    (path : m.artifactPath = .ok file) : ¬Taken g sites m file := by
  rintro ⟨n, among, below, taken⟩
  obtain ⟨v, valid, _, headerV⟩ := Grouping.exists_host_of_mem member
  obtain ⟨w, validW, _, headerW⟩ := Grouping.exists_host_of_mem among
  obtain ⟨oneV, wordsV, sepV⟩ := separable v valid
  obtain ⟨oneW, wordsW, sepW⟩ := separable w validW
  obtain ⟨x, identX, rfl⟩ := HostModel.artifactPath_ok path
  obtain ⟨y, identY, same⟩ := HostModel.artifactPath_ok taken
  have different : n.qualifiedName ≠ m.qualifiedName := fun equal =>
    String.lt_irrefl _ (equal ▸ below)
  have namesV : m.localSegments = v.host.modulePath ++ [v.host.name] :=
    congrArg HostModel.localSegments headerV
  have namesW : n.localSegments = w.host.modulePath ++ [w.host.name] :=
    congrArg HostModel.localSegments headerW
  have crateV : m.crateName = v.host.crateName := congrArg HostModel.crateName headerV
  have crateW : n.crateName = w.host.crateName := congrArg HostModel.crateName headerW
  rw [← namesV] at wordsV sepV
  rw [← namesW] at wordsW sepW
  have crates : n.crateName = m.crateName := by rw [crateV, crateW, oneV, oneW]
  exact HostModel.binderIdent_ne crates wordsW wordsV sepW sepV different identY identX
    (by simpa using same.symm)

instance (r : Report) (m : HostModel) (file : String) : Decidable (Refused r m file) :=
  inferInstanceAs (Decidable (_ ∧ _))

namespace PassTrace

variable (p : PassTrace g sites MemorySink.sink {} s)

/-- A creation is refused exactly if an earlier host has its file. -/
theorem answer_of_mem {c : Creation} (member : c ∈ p.creations) :
    (Taken g sites c.model c.file ∧ c.answer = some (.alreadyExists c.file)) ∨
      ¬Taken g sites c.model c.file ∧ c.answer = none := by
  obtain ⟨before, after, parts⟩ := List.append_of_mem member
  have answer := answer_memory (parts ▸ p.creates)
  have ordered := p.ordered
  rw [parts] at ordered
  obtain ⟨_, behind, across⟩ := List.pairwise_append.mp ordered
  -- Creations stand in the order of names, so the earlier hosts are those before `c`.
  have taken : Taken g sites c.model c.file ↔ c.file ∈ before.map (·.file) := by
    constructor
    · rintro ⟨n, among, below, path⟩
      rw [← p.models] at among
      obtain ⟨d, asked, rfl⟩ := List.mem_map.mp among
      have same : d.file = c.file := Except.ok.inj ((p.file_of_mem asked).symm.trans path)
      rw [parts] at asked
      rcases List.mem_append.mp asked with earlier | later
      · exact List.mem_map.mpr ⟨d, earlier, same⟩
      · exfalso
        rcases List.mem_cons.mp later with rfl | last
        · exact String.lt_irrefl _ below
        · exact String.lt_irrefl _
            (String.lt_trans below ((List.pairwise_cons.mp behind).1 d last))
    · intro asked
      obtain ⟨d, earlier, same⟩ := List.mem_map.mp asked
      have there : d ∈ p.creations := by
        rw [parts]
        exact List.mem_append_left _ earlier
      exact ⟨d.model, p.mem_models there, across d earlier c List.mem_cons_self,
        same ▸ p.file_of_mem there⟩
  rw [answer]
  by_cases held : Taken g sites c.model c.file
  · exact Or.inl ⟨held, if_pos (taken.mp held)⟩
  · exact Or.inr ⟨held, if_neg (mt taken.mpr held)⟩

/-- A host is refused exactly if an earlier one has its file; otherwise it is recorded. -/
theorem refused_iff {m : HostModel} (member : m ∈ (g.group sites).models.values) :
    ∃ file, m.artifactPath = .ok file ∧ (Refused p.report m file ↔ Taken g sites m file) ∧
      (¬Taken g sites m file → ⟨m.qualifiedName, m.binderName, file⟩ ∈ p.report.artifacts) := by
  rw [← p.models] at member
  obtain ⟨c, asked, rfl⟩ := List.mem_map.mp member
  refine ⟨c.file, p.file_of_mem asked, ?_, ?_⟩
  · rcases p.answer_of_mem asked with ⟨taken, refused⟩ | ⟨free, written⟩
    · refine iff_of_true ⟨p.reported_of_answer asked refused, ?_⟩ taken
      intro a recorded same
      obtain ⟨d, created, written, rfl⟩ := p.exists_creation recorded
      -- A record of that name could only be of this host itself, and it was refused.
      have model : d.model = c.model := p.model_unique created asked same
      have file : d.file = c.file := by
        have path := p.file_of_mem created
        rw [model, p.file_of_mem asked] at path
        exact (Except.ok.inj path).symm
      rcases p.answer_of_mem created with ⟨_, answer⟩ | ⟨free, _⟩
      · rw [written] at answer
        cases answer
      · rw [model, file] at free
        exact free taken
    · refine iff_of_false ?_ free
      rintro ⟨_, absent⟩
      exact absent _ (p.recorded_of_answer asked written) rfl
  · intro free
    rcases p.answer_of_mem asked with ⟨taken, _⟩ | ⟨_, written⟩
    · exact absurd taken free
    · exact p.recorded_of_answer asked written

theorem failedHosts_of_free (free : ∀ c ∈ p.creations, ¬Taken g sites c.model c.file) :
    p.report.failedHosts = 0 := by
  rw [failedHosts_report, List.length_eq_zero_iff, List.filterMap_eq_nil_iff]
  intro c asked
  rcases p.answer_of_mem asked with ⟨taken, _⟩ | ⟨_, written⟩
  · exact absurd taken (free c asked)
  · simp [Creation.failure?, written]

end PassTrace

/-- Hosts of one crate whose names are identifiers have one identifier exactly if their joined names are
one text, which separable names are not. A pass refuses a host exactly if one before it has its file, so
it refuses none where all names are separable. -/
theorem runPass_refuses_collisions :
    (∀ a b : HostModel, a.crateName = b.crateName → Words a.localSegments → Words b.localSegments →
      (Unicode.isWord a.crateName.toList = true → ∃ x, a.binderIdent = .ok x) ∧
      ∀ x y, a.binderIdent = .ok x → b.binderIdent = .ok y →
        a.artifactFile = .ok (x ++ ".rs") ∧ b.artifactFile = .ok (y ++ ".rs") ∧
        (x = y ↔ joined a.localSegments = joined b.localSegments) ∧
        (Separable a.localSegments → Separable b.localSegments →
          a.qualifiedName ≠ b.qualifiedName → x ≠ y ∧ x ++ ".rs" ≠ y ++ ".rs")) ∧
    ∀ (g : Generator) (sites : List Site) (r : Report) (s : MemorySink),
      g.runPass sites MemorySink.sink {} = (.ok r, s) →
      (∀ m ∈ (g.group sites).models.values, ∃ file, m.artifactPath = .ok file ∧
        (Refused r m file ↔ Taken g sites m file) ∧
        (¬Taken g sites m file → ⟨m.qualifiedName, m.binderName, file⟩ ∈ r.artifacts)) ∧
      ∀ crate, (∀ v ∈ sites.filterMap (·.valid?), v.host.crateName = crate ∧
          Words (v.host.modulePath ++ [v.host.name]) ∧ Separable (v.host.modulePath ++ [v.host.name])) →
        r.failedHosts = 0 ∧ ∀ m ∈ (g.group sites).models.values, ∃ file,
          m.artifactPath = .ok file ∧ ⟨m.qualifiedName, m.binderName, file⟩ ∈ r.artifacts := by
  refine ⟨?_, ?_⟩
  · intro a b crate wordsA wordsB
    refine ⟨fun word => ⟨_, HostModel.binderIdent_of_words word wordsA⟩, ?_⟩
    intro x y identA identB
    refine ⟨by rw [HostModel.artifactFile, identA]; rfl, by rw [HostModel.artifactFile, identB]; rfl,
      HostModel.binderIdent_eq_iff crate wordsA wordsB identA identB, ?_⟩
    intro sepA sepB different
    have distinct := HostModel.binderIdent_ne crate wordsA wordsB sepA sepB different identA identB
    exact ⟨distinct, fun same => distinct (by simpa using same)⟩
  · intro g sites r s run
    obtain ⟨p, rfl⟩ := runPass_ok run
    refine ⟨fun m member => p.refused_iff member, ?_⟩
    intro crate separable
    have free := not_taken (g := g) separable
    refine ⟨p.failedHosts_of_free fun c asked => free _ (p.mem_models asked) _ (p.file_of_mem asked), ?_⟩
    intro m member
    obtain ⟨file, path, _, recorded⟩ := p.refused_iff member
    exact ⟨file, path, recorded (free m member file path)⟩

/-- One underscore in a name does not make two hosts alike. -/
theorem runPass_refuses_no_separable :
    let g : Generator := { config := .ofCrate "app", renderer := { runtime := ":: viewbind" } }
    let nested := Host.visible "app" ["a", "b"] "C"
    let flat := Host.visible "app" ["a_b"] "C"
    let sites := [nested.site 1 "x", flat.site 2 "y"]
    (∃ x y, (HostModel.ofHost nested).binderIdent = .ok x ∧ (HostModel.ofHost flat).binderIdent = .ok y ∧
      x ≠ y) ∧
    ∃ r s, g.runPass sites MemorySink.sink {} = (.ok r, s) ∧ r.failedHosts = 0 ∧
      ∀ m ∈ (g.group sites).models.values, ∃ file,
        m.artifactPath = .ok file ∧ ⟨m.qualifiedName, m.binderName, file⟩ ∈ r.artifacts := by
  intro g nested flat sites
  obtain ⟨hosts, runs⟩ := runPass_refuses_collisions
  refine ⟨?_, ?_⟩
  · obtain ⟨someX, compare⟩ := hosts (.ofHost nested) (.ofHost flat) rfl (by decide) (by decide)
    obtain ⟨someY, _⟩ := hosts (.ofHost flat) (.ofHost nested) rfl (by decide) (by decide)
    obtain ⟨x, identX⟩ := someX (by decide)
    obtain ⟨y, identY⟩ := someY (by decide)
    obtain ⟨_, _, _, differ⟩ := compare x y identX identY
    exact ⟨x, y, identX, identY, (differ (by decide) (by decide) (by decide)).1⟩
  · have ok : (g.runPass sites MemorySink.sink {}).1.isOk = true := by decide +kernel
    obtain ⟨r, s, run⟩ := exists_run_of_isOk ok
    have valid : ∀ v ∈ sites.filterMap (·.valid?), v.host.crateName = "app" ∧
        Words (v.host.modulePath ++ [v.host.name]) ∧ Separable (v.host.modulePath ++ [v.host.name]) := by
      decide +kernel
    exact ⟨r, s, run, (runs g sites r s run).2 "app" valid⟩

/-- A module within a module and a module with two underscores in its name hold structs whose binders
ask for one file. -/
theorem nested_and_flat_collide :
    let g : Generator := { config := .ofCrate "app", renderer := { runtime := ":: viewbind" } }
    let source := "pub mod a \x7b pub mod b \x7b pub struct C \x7b #[bind(1)] pub x: Label \x7d \x7d \x7d " ++
      "pub mod a__b \x7b pub struct C \x7b #[bind(2)] pub y: Label \x7d \x7d"
    let sites := ((scanSource 1 {} "app" [] "src/lib.rs" source).getD {}).sites
    ∃ r s, g.runPass sites MemorySink.sink {} = (.ok r, s) ∧
      ∃ a ∈ (g.group sites).models.values, ∃ b ∈ (g.group sites).models.values,
        a.crateName = b.crateName ∧ Words a.localSegments ∧ Words b.localSegments ∧
        a.qualifiedName ≠ b.qualifiedName ∧ a.binderIdent = b.binderIdent ∧
        a.artifactFile = b.artifactFile ∧ Refused r b "viewbind/app__a__b__C__Bind.rs" := by
  intro g source sites
  obtain ⟨r, s, run, holds⟩ := exists_run_of_any (x := g.runPass sites MemorySink.sink {})
    (p := fun r => decide (
      ∃ a ∈ (g.group sites).models.values, ∃ b ∈ (g.group sites).models.values,
        a.crateName = b.crateName ∧ Words a.localSegments ∧ Words b.localSegments ∧
        a.qualifiedName ≠ b.qualifiedName ∧
        a.binderIdent.toOption = some "app__a__b__C__Bind" ∧
        b.binderIdent.toOption = some "app__a__b__C__Bind" ∧
        Refused r b "viewbind/app__a__b__C__Bind.rs"))
    (by decide +kernel)
  obtain ⟨a, memberA, b, memberB, crate, wordsA, wordsB, different, identA, identB, refused⟩ :=
    of_decide_eq_true holds
  have same : a.binderIdent = b.binderIdent := (eq_ok_of_toOption identA).trans
    (eq_ok_of_toOption identB).symm
  exact ⟨r, s, run, a, memberA, b, memberB, crate, wordsA, wordsB, different, same,
    congrArg (·.map (· ++ ".rs")) same, refused⟩

end Generator

end SlotBinding
