import SlotBinding.Proofs.ArtifactNames

/-!
# The sink in a directory against the sink in memory

A pass cannot tell two sinks apart whose states are related by what they answer. The sink in a directory is related
to the one in memory as long as nothing but directories stands in its way: `runPass_directory_refines`.
-/

namespace SlotBinding

open Files (Path Trail Tree)
open Files.Path (parts_injective)
open Files.Tree (Grows MoreDirectories Sound directory_of_grows grows_set_file longestName longestPath
  ordinary_of_none start walk_append walk_ordinary)

def Sink.Agree {σ : Type u} {τ : Type v} (k : Sink σ) (k' : Sink τ) (names : List String) (R : σ → τ → Prop) :
    Prop :=
  ∀ s s', R s s' → ∀ name ∈ names, ∀ text,
    (k.create s name text).2 = (k'.create s' name text).2 ∧ R (k.create s name text).1 (k'.create s' name text).1

namespace Generator

section

variable {σ : Type u} {τ : Type v} {g : Generator} {sites : List Site} {k : Sink σ} {k' : Sink τ}
  {names : List String} {R : σ → τ → Prop} {s : σ} {s' : τ}

theorem writeModels_agree (agree : k.Agree k' names R) {ms : List HostModel}
    (within : ∀ name ∈ g.asked ms, name ∈ names) (related : R s s') :
    (g.writeModels k ms s).1 = (g.writeModels k' ms s').1 ∧
      R (g.writeModels k ms s).2 (g.writeModels k' ms s').2 := by
  induction ms generalizing s s' with
  | nil => exact ⟨rfl, related⟩
  | cons m rest ih =>
    rw [asked] at within
    rw [writeModels, writeModels]
    split
    · exact ⟨rfl, related⟩
    · rename_i text file made
      rw [made] at within
      obtain ⟨here, later⟩ := List.forall_mem_cons.mp within
      obtain ⟨answer, next⟩ := agree s s' related file here text
      obtain ⟨log, ended⟩ := ih later next
      dsimp only
      rw [answer, log]
      exact ⟨rfl, ended⟩

theorem runPass_agree (agree : k.Agree k' (g.names sites) R) (related : R s s') :
    (g.runPass sites k s).1 = (g.runPass sites k' s').1 ∧ R (g.runPass sites k s).2 (g.runPass sites k' s').2 := by
  have hosts : ∀ name ∈ g.asked (g.group sites).models.values, name ∈ g.names sites := fun _ among =>
    List.mem_append_left _ among
  have table : tableFile ∈ g.names sites := List.mem_append_right _ List.mem_cons_self
  obtain ⟨log, middle⟩ := writeModels_agree agree hosts related
  unfold runPass
  dsimp only
  cases wrote : g.writeModels k (g.group sites).models.values s with
  | mk answer t =>
    cases wrote' : g.writeModels k' (g.group sites).models.values s' with
    | mk answer' t' =>
      rw [wrote, wrote'] at log middle
      obtain rfl : answer = answer' := log
      cases answer with
      | error f => exact ⟨rfl, middle⟩
      | ok log =>
        dsimp only [writeTable]
        cases g.renderer.table log.written with
        | error f => exact ⟨rfl, middle⟩
        | ok text =>
          obtain ⟨same, ended⟩ := agree t t' middle tableFile table text
          dsimp only
          rw [same]
          exact ⟨rfl, ended⟩

end

end Generator

/-! ### A directory that mirrors a memory -/

/-- Once some directories are made that are missing on the way, a path leads to a directory. There is no file in
it, and no directory where one of the names leads. -/
def Vacant (t : Tree) (root : Path) (d : Trail) (names : List String) : Prop :=
  ∃ v, MoreDirectories t v ∧ v.walk (start root) root.parts = .ok (.directory d) ∧
    (∀ trail c, v.entry? (d ++ trail) ≠ some (.file c)) ∧
    ∀ name ∈ names, v.entry? (d ++ Path.parts name) ≠ some .directory

/-- The files in a directory are the artifacts in a memory, by their paths from there. -/
def HoldsExactly (t : Tree) (d : Trail) (m : MemorySink) : Prop :=
  ∀ trail c, t.entry? (d ++ trail) = some (.file c) ↔
    ∃ name text, Path.parts name = trail ∧ m.get? name = some text ∧ c = .text text

/-- The names lead to files below the directory, by paths that can be followed. -/
def Fits (root : Path) (names : List String) : Prop :=
  ∀ name ∈ names, ∃ above x,
    ArtifactName name above x ∧ x.utf8ByteSize ≤ longestName ∧ Sound (root.join name)

/-- A sink in a directory has created what is in a memory. The way to the directory is only made with the first
creation; `v` is the tree in which it is there. -/
structure Mirrors (root : Path) (d : Trail) (names : List String) (s : DirectorySink) (m : MemorySink) : Prop where
  place : s.root = root
  created : ∀ name, name ∈ s.created ↔ m.Holds name
  among : ∀ name, m.Holds name → name ∈ names
  led : ∀ name, m.Holds name → s.tree.walk (start root) root.parts = .ok (.directory d)
  made : ∃ v, MoreDirectories s.tree v ∧ v.walk (start root) root.parts = .ok (.directory d) ∧
    HoldsExactly v d m ∧ ∀ name ∈ names, v.entry? (d ++ Path.parts name) ≠ some .directory

section

variable {root : Path} {d : Trail} {names : List String} {t u v : Tree} {m : MemorySink} {name text x : String}
  {above : List String}

theorem MemorySink.holds_insert {other : String} :
    Holds (m.insert name text) other ↔ other = name ∨ m.Holds other := by
  unfold Holds
  by_cases here : other = name
  · subst here
    simp
  · rw [SortedMap.get?_insert_of_ne m here]
    simp [here]

theorem HoldsExactly.more (exactly : HoldsExactly t d m) (more : MoreDirectories t u) : HoldsExactly u d m :=
  fun trail c => (more.file_iff (d ++ trail) c).trans (exactly trail c)

theorem HoldsExactly.of_more (exactly : HoldsExactly u d m) (more : MoreDirectories t u) : HoldsExactly t d m :=
  fun trail c => (more.file_iff (d ++ trail) c).symm.trans (exactly trail c)

theorem HoldsExactly.insert (exactly : HoldsExactly t d m) (free : t.entry? (d ++ Path.parts name) = none)
    (text : String) :
    HoldsExactly (t.set (d ++ Path.parts name) (.file (.text text))) d (m.insert name text) := by
  intro trail c
  by_cases here : trail = Path.parts name
  · subst here
    rw [Tree.set_self (ordinary_of_none free)]
    constructor
    · intro file
      exact ⟨name, text, rfl, SortedMap.get?_insert_self m name text, by simpa using file.symm⟩
    · rintro ⟨other, held, same, found, rfl⟩
      rw [parts_injective same, SortedMap.get?_insert_self] at found
      rw [Option.some.inj found]
  · have apart : d ++ trail ≠ d ++ Path.parts name := fun same => here (List.append_cancel_left same)
    rw [Tree.set_of_ne apart, exactly]
    have keeps (other held : String) (same : Path.parts other = trail) :
        (m.insert name text).get? other = some held ↔ m.get? other = some held := by
      rw [SortedMap.get?_insert_of_ne m fun equal => here (by rw [← same, equal])]
    constructor
    · rintro ⟨other, held, same, found, rfl⟩
      exact ⟨other, held, same, (keeps other held same).mpr found, rfl⟩
    · rintro ⟨other, held, same, found, rfl⟩
      exact ⟨other, held, same, (keeps other held same).mp found, rfl⟩

/-- The directory that a name lies in is made if it is missing. -/
theorem exists_above (artifact : ArtifactName name above x)
    (leads : v.walk (start root) root.parts = .ok (.directory d))
    (noFile : ∀ c, v.entry? (d ++ [artifactDir]) ≠ some (.file c)) :
    ∃ u, MoreDirectories v u ∧ u.walk (start root) root.parts = .ok (.directory d) ∧
      u.walk (start root) (root.parts ++ above) = .ok (.directory (d ++ above)) ∧
      ∀ trail, trail ≠ d ++ [artifactDir] → u.entry? trail = v.entry? trail := by
  have still {u : Tree} (more : MoreDirectories v u) := directory_of_grows leads more.grows
  obtain rfl | rfl := artifact.place
  · refine ⟨v, .refl v, leads, ?_, fun _ _ => rfl⟩
    rw [List.append_nil, List.append_nil, leads]
  · have there {u : Tree} (more : MoreDirectories v u) (made : u.entry? (d ++ [artifactDir]) = some .directory) :
        u.walk (start root) (root.parts ++ [artifactDir]) = .ok (.directory (d ++ [artifactDir])) := by
      rw [walk_append, still more]
      show u.walk d [artifactDir] = _
      rw [walk_ordinary ordinary_artifactDir (by decide), made]
    cases before : v.entry? (d ++ [artifactDir]) with
    | none =>
      have more := Files.Tree.moreDirectories_set before
      refine ⟨_, more, still more, there more (Tree.set_self (ordinary_of_none before) _), ?_⟩
      exact fun trail apart => Tree.set_of_ne apart _
    | some e =>
      cases e with
      | directory => exact ⟨v, .refl v, leads, there (.refl v) before, fun _ _ => rfl⟩
      | file c => exact absurd before (noFile c)

theorem Fits.apart (fits : Fits root names) (among : name ∈ names) (d : Trail) :
    d ++ Path.parts name ≠ d ++ [artifactDir] := by
  intro same
  obtain ⟨_, _, artifact, _⟩ := fits name among
  exact artifact.apart (artifact.parts.symm.trans (List.append_cancel_left same))

theorem HoldsExactly.none_of_missing (exactly : HoldsExactly v d m) (missing : m.get? name = none)
    (noDirectory : v.entry? (d ++ Path.parts name) ≠ some .directory) : v.entry? (d ++ Path.parts name) = none := by
  cases there : v.entry? (d ++ Path.parts name) with
  | none => rfl
  | some e =>
    cases e with
    | directory => exact absurd there noDirectory
    | file c =>
      obtain ⟨other, text, same, found, _⟩ := (exactly _ _).mp there
      rw [parts_injective same, missing] at found
      cases found

theorem HoldsExactly.ne_file (exactly : HoldsExactly v d m) (fits : Fits root names)
    (among : ∀ name, m.Holds name → name ∈ names) (c : Files.Content) :
    v.entry? (d ++ [artifactDir]) ≠ some (.file c) := by
  intro there
  obtain ⟨other, text, same, found, _⟩ := (exactly _ _).mp there
  have held : m.Holds other := Option.isSome_iff_exists.mpr ⟨_, found⟩
  exact fits.apart (among other held) d (by rw [same])

end

namespace Mirrors

variable {root : Path} {d : Trail} {names : List String} {s : DirectorySink} {m : MemorySink} {name text : String}

/-- For a new name there is a tree with all directories that the name needs, where its place is free. -/
theorem exists_ready {above : List String} {x : String} (fits : Fits root names) (mirrors : Mirrors root d names s m)
    (among : name ∈ names) (missing : m.get? name = none) (artifact : ArtifactName name above x) :
    ∃ w, MoreDirectories s.tree w ∧ w.walk (start root) root.parts = .ok (.directory d) ∧
      w.walk (start root) (root.parts ++ above) = .ok (.directory (d ++ above)) ∧ HoldsExactly w d m ∧
      (∀ other ∈ names, w.entry? (d ++ Path.parts other) ≠ some .directory) ∧
      w.entry? (d ++ Path.parts name) = none := by
  obtain ⟨v, more, leads, exactly, noDirectory⟩ := mirrors.made
  obtain ⟨w, moreW, leadsW, led, same⟩ := exists_above artifact leads (exactly.ne_file fits mirrors.among)
  have free := exactly.none_of_missing missing (noDirectory name among)
  refine ⟨w, more.trans moreW, leadsW, led, exactly.more moreW, fun other among' => ?_, ?_⟩
  · rw [same _ (fits.apart among' d)]
    exact noDirectory other among'
  · exact (same _ (fits.apart among d)).trans free

/-- The file of a new name is written where a tree is ready for it; what the creation makes of its directories lies
between the tree of the sink and that one. -/
theorem insert {u w : Tree} (mirrors : Mirrors root d names s m) (among : name ∈ names)
    (leadsU : u.walk (start root) root.parts = .ok (.directory d)) (below : MoreDirectories u w)
    (leadsW : w.walk (start root) root.parts = .ok (.directory d)) (exactly : HoldsExactly w d m)
    (noDirectory : ∀ other ∈ names, w.entry? (d ++ Path.parts other) ≠ some .directory)
    (free : w.entry? (d ++ Path.parts name) = none) :
    Mirrors root d names
      { root, tree := u.set (d ++ Path.parts name) (.file (.text text)), created := name :: s.created }
      (m.insert name text) := by
  have ordinary := ordinary_of_none free
  have freeU : u.entry? (d ++ Path.parts name) ≠ some .directory := by
    obtain same | ⟨gone, _⟩ := below (d ++ Path.parts name)
    · rw [← same, free]
      exact nofun
    · rw [gone]
      exact nofun
  exact
    { place := rfl
      created := fun other => by
        rw [List.mem_cons, mirrors.created, MemorySink.holds_insert]
      among := fun other => by
        rw [MemorySink.holds_insert]
        rintro (rfl | before)
        · exact among
        · exact mirrors.among other before
      led := fun _ _ => directory_of_grows leadsU (grows_set_file ordinary freeU _)
      made := by
        refine ⟨w.set (d ++ Path.parts name) (.file (.text text)), below.set _ _, ?_, exactly.insert free text, ?_⟩
        · exact directory_of_grows leadsW (grows_set_file ordinary (by simp [free]) _)
        · intro other among'
          by_cases here : other = name
          · rw [here, Tree.set_self ordinary]
            exact nofun
          · rw [Tree.set_of_ne fun same => here (parts_injective (List.append_cancel_left same))]
            exact noDirectory other among' }

/-- What a creation does: a taken name changes nothing, and any other one is put into both. -/
theorem create (fits : Fits root names) (mirrors : Mirrors root d names s m) (among : name ∈ names) (text : String) :
    (DirectorySink.create s name text).2 = (MemorySink.create m name text).2 ∧
      Mirrors root d names (DirectorySink.create s name text).1 (MemorySink.create m name text).1 := by
  by_cases held : m.Holds name
  · rw [DirectorySink.create_of_mem ((mirrors.created name).mpr held), MemorySink.create_of_holds held]
    exact ⟨rfl, mirrors⟩
  have missing : m.get? name = none := Option.not_isSome_iff_eq_none.mp held
  have fresh : ¬s.created.contains name = true := fun taken =>
    held ((mirrors.created name).mp (List.contains_iff_mem.mp taken))
  obtain ⟨above, x, artifact, short, sound⟩ := fits name among
  obtain ⟨w, more, leads, led, exactly, noDirectory, free⟩ := mirrors.exists_ready fits among missing artifact
  have place : d ++ above ++ [x] = d ++ Path.parts name := by rw [artifact.parts, List.append_assoc]
  obtain ⟨q, target⟩ := artifact.target root
  obtain ⟨u, _, below, found, made⟩ := target.attempt_within sound short more led (by rw [place]; exact free) text
  have leadsU : u.walk (start root) root.parts = .ok (.directory d) := by
    obtain ⟨_, leads, same⟩ := artifact.exists_root found
    rw [leads, List.append_cancel_right same]
  rw [DirectorySink.create_eq, if_neg fresh, mirrors.place, made, MemorySink.create_of_none missing, place]
  exact ⟨rfl, mirrors.insert among leadsU below leads exactly noDirectory free⟩

theorem agree (fits : Fits root names) : DirectorySink.sink.Agree MemorySink.sink names (Mirrors root d names) :=
  fun _ _ mirrors _ among text => mirrors.create fits among text

theorem fresh {t : Tree} (vacant : Vacant t root d names) : Mirrors root d names (.fresh root t) {} := by
  obtain ⟨v, more, leads, noFile, noDirectory⟩ := vacant
  have nothing (name : String) : ¬MemorySink.Holds {} name := by simp [MemorySink.Holds]
  refine ⟨rfl, fun name => ?_, fun name held => absurd held (nothing name),
    fun name held => absurd held (nothing name), v, more, leads, fun trail c => ?_, noDirectory⟩
  · exact iff_of_false List.not_mem_nil (nothing name)
  · refine iff_of_false (noFile trail c) ?_
    rintro ⟨name, text, _, found, _⟩
    rw [SortedMap.get?_empty] at found
    cases found

end Mirrors

/-! ### Whole passes -/

namespace Generator

theorem fits_names {g : Generator} {sites : List Site} {root : Path} (noNul : '\x00' ∉ root.toList)
    (paths : ∀ name ∈ g.names sites, (root.join name).utf8ByteSize ≤ longestPath)
    (files : ∀ m ∈ (g.group sites).models.values, ∀ x,
      m.artifactFile = .ok x → x.utf8ByteSize ≤ longestName) :
    Fits root (g.names sites) := by
  intro name among
  have short := paths name among
  rcases List.mem_append.mp among with host | table
  · obtain ⟨m, member, path⟩ := exists_model_of_asked host
    obtain ⟨x, file, artifact⟩ := artifactName_of_artifactPath path
    exact ⟨_, x, artifact, files m member x file, artifact.sound_join noNul short⟩
  · obtain rfl := List.mem_singleton.mp table
    exact ⟨_, _, artifactName_tableFile, by decide, artifactName_tableFile.sound_join noNul short⟩

/-- A pass to a new sink in a vacant directory, against one to a new sink in memory. Both end in the same report,
or both are stopped by the same name. The files that are in the directory then are the artifacts in memory. Names
of files and paths must not be longer than the file system can have them. -/
theorem runPass_directory_refines (g : Generator) (sites : List Site) {root : Path} {t : Tree} {d : Trail}
    (noNul : '\x00' ∉ root.toList)
    (paths : ∀ name ∈ g.names sites, (root.join name).utf8ByteSize ≤ longestPath)
    (files : ∀ m ∈ (g.group sites).models.values, ∀ x, m.artifactFile = .ok x → x.utf8ByteSize ≤ longestName)
    (vacant : Vacant t root d (g.names sites)) :
    let directory := g.runPass sites DirectorySink.sink (.fresh root t)
    let memory := g.runPass sites MemorySink.sink {}
    directory.1 = memory.1 ∧ HoldsExactly directory.2.tree d memory.2 ∧
      ∀ name, memory.2.Holds name → directory.2.tree.walk (start root) root.parts = .ok (.directory d) := by
  intro directory memory
  have fits := fits_names noNul paths files
  obtain ⟨same, mirrors⟩ := runPass_agree (Mirrors.agree fits) (Mirrors.fresh vacant)
  obtain ⟨v, more, _, exactly, _⟩ := mirrors.made
  exact ⟨same, exactly.of_more more, mirrors.led⟩

/-- Two hosts that ask for one file and a third one, in a directory that is missing with the one above it. -/
theorem runPass_directory_refines_of_twins :
    let g : Generator := { config := .ofCrate "app", renderer := { runtime := ":: viewbind" } }
    let nested := Host.visible "app" ["a"] "C"
    let flat := Host.visible "app" [] "a__C"
    let other := Host.visible "app" [] "D"
    let sites := [nested.site 1 "x", flat.site 2 "y", other.site 3 "z"]
    (g.runPass sites MemorySink.sink {}).2.size = 3 ∧
      (g.runPass sites DirectorySink.sink (.fresh "build/out" {})).1 = (g.runPass sites MemorySink.sink {}).1 ∧
      HoldsExactly (g.runPass sites DirectorySink.sink (.fresh "build/out" {})).2.tree ["work", "build", "out"]
        (g.runPass sites MemorySink.sink {}).2 := by
  intro g nested flat other sites
  let v : Tree := (({} : Tree).set ["work", "build"] .directory).set ["work", "build", "out"] .directory
  have more : MoreDirectories {} v :=
    (Files.Tree.moreDirectories_set (by decide)).trans (Files.Tree.moreDirectories_set (by decide))
  have noFile : ∀ trail c, v.entry? (["work", "build", "out"] ++ trail) ≠ some (.file c) := by
    intro trail c there
    have before := (more.file_iff _ c).mp there
    simp [ Tree.entry?, Files.Tree.working] at before
  have vacant : Vacant {} "build/out" ["work", "build", "out"] (g.names sites) :=
    ⟨v, more, by decide +kernel, noFile, by decide +kernel⟩
  have short : ∀ m ∈ (g.group sites).models.values,
      (m.artifactFile.toOption.all fun x => decide (x.utf8ByteSize ≤ longestName)) = true := by
    decide +kernel
  have files : ∀ m ∈ (g.group sites).models.values, ∀ x, m.artifactFile = .ok x →
      x.utf8ByteSize ≤ longestName := by
    intro m member x made
    have bound := short m member
    rw [made] at bound
    simpa [Except.toOption] using bound
  obtain ⟨same, exactly, _⟩ := runPass_directory_refines g sites (by decide) (by decide +kernel) files vacant
  exact ⟨by decide +kernel, same, exactly⟩

section

variable {σ : Type u} {g : Generator} {k : Sink σ}

theorem exists_table_of_no_sites (g : Generator) :
    ∃ text, ∀ {σ : Type} (k : Sink σ) (s : σ),
      (g.runPass [] k s).1 = .ok (reportOf [] {} (k.create s tableFile text).2) := by
  obtain ⟨text, table⟩ : ∃ text, g.renderer.table [] = .ok text := table_ok (by simp)
  refine ⟨text, fun k s => ?_⟩
  have nothing : g.writeModels k (g.group []).models.values s = (.ok {}, s) := rfl
  unfold runPass
  dsimp only
  rw [nothing]
  dsimp only [writeTable]
  rw [table]
  rfl

/-- The table cannot be written below a path that leaves no room for its name. -/
theorem runPass_ne_of_long {root : Path} (long : longestPath < (root.join tableFile).utf8ByteSize) (t : Tree) :
    (g.runPass [] DirectorySink.sink (.fresh root t)).1 ≠ (g.runPass [] MemorySink.sink {}).1 := by
  obtain ⟨text, answers⟩ := exists_table_of_no_sites g
  obtain ⟨q, target⟩ := artifactName_tableFile.target root
  have unsound : ¬Sound (root.join tableFile) := fun sound => absurd sound.short (Nat.not_le.mpr long)
  obtain ⟨f, fails⟩ := Option.ne_none_iff_exists'.mp (target.attempt_of_not_sound unsound t text)
  have failed : (DirectorySink.sink.create (.fresh root t) tableFile text).2 = some (.io tableFile f) := by
    show (DirectorySink.create (.fresh root t) tableFile text).2 = _
    rw [DirectorySink.answer_create List.not_mem_nil]
    exact congrArg (Option.map _) fails
  have written : (MemorySink.sink.create {} tableFile text).2 = none :=
    congrArg Prod.snd (MemorySink.create_of_none (SortedMap.get?_empty _) text)
  rw [answers, answers, failed, written]
  intro same
  cases congrArg Report.table (Except.ok.inj same)

end

/-! ### Where the sinks differ -/

def slashed (p : Path) (n : Nat) : Path := p ++ "/" ++ String.ofList (List.replicate n '/')

theorem utf8ByteSize_slashed (p : Path) (n : Nat) : (slashed p n).utf8ByteSize = p.utf8ByteSize + 1 + n := by
  have slashes : (String.ofList (List.replicate n '/')).utf8ByteSize = n := by
    induction n with
    | zero => rfl
    | succ n ih =>
      have slash : "/".utf8ByteSize = 1 := rfl
      rw [List.replicate_succ, String.ofList_cons, String.utf8ByteSize_append, ih, String.singleton_eq_ofList, slash]
      omega
  rw [slashed, String.utf8ByteSize_append, String.utf8ByteSize_append, slashes]
  rfl

theorem parts_slashed (p : Path) (n : Nat) : (slashed p n).parts = p.parts ++ List.replicate (n + 1) "" := by
  have slashes : Path.parts (String.ofList (List.replicate n '/')) = List.replicate (n + 1) "" := by
    unfold Files.Path.parts
    rw [String.toList_ofList]
    induction n with
    | zero => rfl
    | succ n ih =>
      rw [List.replicate_succ, Files.Path.splitSlash, if_pos rfl, List.map_cons, ih]
      rfl
  rw [slashed, Files.Path.parts_slash, slashes]

theorem find_slashed {t : Tree} {p : Path} {d : Trail} (found : t.find p = .ok (.directory d)) {n : Nat}
    (short : p.utf8ByteSize + 1 + n ≤ longestPath) : t.find (slashed p n) = .ok (.directory d) := by
  have sound := Files.Tree.sound_of_find found
  have sound' : Sound (slashed p n) := by
    refine ⟨fun nul => ?_, ?_, by rw [utf8ByteSize_slashed]; exact short⟩
    · have among : '\x00' ∈ p.toList ∨ '\x00' = '/' := by simpa [slashed] using nul
      exact among.elim sound.noNul (by decide)
    · intro empty
      have size := utf8ByteSize_slashed p n
      rw [empty, show "".utf8ByteSize = 0 from rfl] at size
      omega
  have sameStart : start (slashed p n) = start p := by
    rw [start, start, slashed, String.append_assoc, Files.Path.isAbsolute_append_left sound.nonempty]
  rw [Files.Tree.find_of_sound sound] at found
  rw [Files.Tree.find_of_sound sound', parts_slashed, sameStart, walk_append, found]
  exact Files.Tree.walk_of_slashes (by simp) t d

theorem le_utf8ByteSize_join {name : Path} (relative : name.isAbsolute = false) (base : Path) :
    base.utf8ByteSize + name.utf8ByteSize ≤ (base.join name).utf8ByteSize := by
  unfold Files.Path.join
  rw [relative, if_neg Bool.false_ne_true]
  split <;> simp only [String.utf8ByteSize_append] <;> omega

/-- In an empty directory the table cannot be written where the path of the directory has too many slashes behind
it, and in a missing one where the way to it leads over a name that the table would get. -/
theorem runPass_directory_differs :
    let g : Generator := { config := .ofCrate "app", renderer := { runtime := ":: viewbind" } }
    let t := ({} : Tree).set ["work", "out"] .directory
    let named := "out/viewbind.rs/.."
    (t.find (slashed "out" 4090) = .ok (.directory ["work", "out"]) ∧
      (∀ trail, trail ≠ [] → t.entry? (["work", "out"] ++ trail) = none) ∧
      (g.runPass [] DirectorySink.sink (.fresh (slashed "out" 4090) t)).1 ≠ (g.runPass [] MemorySink.sink {}).1) ∧
    (∀ trail, Tree.entry? {} (["work", "out"] ++ trail) = none) ∧
      (g.runPass [] DirectorySink.sink (.fresh named {})).1 ≠ (g.runPass [] MemorySink.sink {}).1 := by
  intro g t named
  have nothing (trail : Trail) : Tree.entry? {} (["work", "out"] ++ trail) = none := by
    simp [ Tree.entry?, Files.Tree.working]
  refine ⟨⟨?_, ?_, ?_⟩, nothing, ?_⟩
  · exact find_slashed (by decide +kernel) (by decide)
  · intro trail more
    have apart : ["work", "out"] ++ trail ≠ ["work", "out"] := by simpa using more
    rw [Tree.set_of_ne apart, nothing]
  · have size := le_utf8ByteSize_join artifactName_tableFile.relative (slashed "out" 4090)
    rw [utf8ByteSize_slashed] at size
    exact runPass_ne_of_long (Nat.lt_of_lt_of_le (by decide) size) t
  · decide +kernel

end Generator

end SlotBinding
