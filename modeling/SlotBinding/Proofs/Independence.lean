import SlotBinding.Proofs.Collision

/-!
# What the artifact of a host depends on

`runPass_independent` compares two passes in which a host has the same valid sites. Grouping keeps the
sites of hosts apart, and no other host writes to the file.
-/

namespace SlotBinding.Generator

variable {g : Generator} {sites : List Site} {s : MemorySink} {q : String} {m : HostModel}

/-- No other host with a valid site has the file of the host named `q`. -/
def Alone (g : Generator) (sites : List Site) (q : String) : Prop :=
  ∀ m, (g.group sites).models.get? q = some m →
    ∀ v ∈ sites.filterMap (·.valid?), v.host.qualifiedName ≠ q →
      (HostModel.ofHost v.host).artifactFile ≠ m.artifactFile

theorem Alone.of_toOption
    (differ : ∀ m ∈ ((g.group sites).models.get? q).toList,
      ∀ v ∈ sites.filterMap (·.valid?), v.host.qualifiedName ≠ q →
        (HostModel.ofHost v.host).artifactFile.toOption ≠ m.artifactFile.toOption) :
    Alone g sites q :=
  fun m found v valid other same =>
    differ m (Option.mem_toList.mpr found) v valid other (congrArg Except.toOption same)

theorem Alone.not_taken (alone : Alone g sites q) (found : (g.group sites).models.get? q = some m)
    {file : String} (path : m.artifactPath = .ok file) : ¬Taken g sites m file := by
  rintro ⟨n, among, below, taken⟩
  obtain ⟨_, _, _, _, name, _⟩ := Grouping.header_of_get? found
  obtain ⟨v, valid, own, header⟩ := Grouping.exists_host_of_mem among
  have other : v.host.qualifiedName ≠ q := by
    rw [own, ← name]
    exact fun equal => String.lt_irrefl _ (equal ▸ below)
  have file : n.artifactFile = (HostModel.ofHost v.host).artifactFile := by
    rw [← HostModel.artifactFile_header, header]
  exact alone m found v valid other (file.symm.trans (HostModel.artifactPath_inj taken path))

theorem filter_eq_singleton {α : Type u} {f : α → String} {as : List α}
    (ordered : as.Pairwise fun a b => f a < f b) {a : α} (member : a ∈ as) :
    as.filter (fun b => f b = f a) = [a] := by
  obtain ⟨before, after, rfl⟩ := List.append_of_mem member
  obtain ⟨_, behind, across⟩ := List.pairwise_append.mp ordered
  have noneBefore : before.filter (fun b => f b = f a) = [] := by
    rw [List.filter_eq_nil_iff]
    intro b earlier same
    have below := across b earlier a List.mem_cons_self
    exact String.lt_irrefl _ (of_decide_eq_true same ▸ below)
  have noneAfter : after.filter (fun b => f b = f a) = [] := by
    rw [List.filter_eq_nil_iff]
    intro b later same
    have above := (List.pairwise_cons.mp behind).1 b later
    exact String.lt_irrefl _ (of_decide_eq_true same ▸ above)
  rw [List.filter_append, noneBefore, List.filter_cons_of_pos (by simp), noneAfter, List.nil_append]

namespace PassTrace

variable (p : PassTrace g sites MemorySink.sink {} s)

theorem records_of_none (absent : (g.group sites).models.get? q = none) :
    p.report.artifacts.filter (·.host = q) = [] := by
  rw [artifacts_report, List.filter_eq_nil_iff]
  intro a recorded same
  obtain ⟨c, there, rfl⟩ := List.mem_map.mp recorded
  have found := Grouping.get?_qualifiedName (p.mem_models (List.mem_filter.mp there).1)
  have name : c.model.qualifiedName = q := of_decide_eq_true same
  rw [name] at found
  rw [group, found] at absent
  cases absent

/-- A host that is alone with its file is recorded once, and the sink holds its text. -/
theorem artifact_of_alone (alone : Alone g sites q)
    (found : (g.group sites).models.get? q = some m) :
    ∃ text file, g.artifact m = .ok (text, file) ∧ s.get? file = some text ∧
      p.report.artifacts.filter (·.host = q) = [⟨q, binderName q, file⟩] := by
  obtain ⟨_, _, _, _, rfl, _⟩ := Grouping.header_of_get? found
  have among : m ∈ (g.group sites).models.values := Grouping.mem_values_of_get? found
  rw [← p.models] at among
  obtain ⟨c, asked, rfl⟩ := List.mem_map.mp among
  have written : c.answer = none := by
    rcases p.answer_of_mem asked with ⟨taken, _⟩ | ⟨_, written⟩
    · exact absurd taken (alone.not_taken found (p.file_of_mem asked))
    · exact written
  refine ⟨c.text, c.file, creates_made p.creates c asked, ?_, ?_⟩
  · have held := MemorySink.get?_create_of_some (creates_memory_text p.creates asked written)
      tableFile p.tableText
    rwa [show MemorySink.create p.middle tableFile p.tableText = (s, p.tableAnswer) from p.created]
      at held
  · have ordered := p.ordered.filter (·.isWritten)
    have kept : c ∈ p.creations.filter (·.isWritten) :=
      List.mem_filter.mpr ⟨asked, by simp [Creation.isWritten, written]⟩
    have once := filter_eq_singleton (f := fun c : Creation => c.model.qualifiedName) ordered kept
    rw [artifacts_report, List.filter_map, show ((fun a : ArtifactRecord => decide (a.host =
      c.model.qualifiedName)) ∘ Creation.record) = fun d => decide (d.model.qualifiedName =
      c.model.qualifiedName) from rfl, once]
    rfl

end PassTrace

/-- Two passes in which a host has the same valid sites write the same text for it to the same file and
record it alike, where no other host has that file. -/
theorem runPass_independent {sites₁ sites₂ : List Site} {r₁ r₂ : Report} {s₁ s₂ : MemorySink}
    (same : sitesNamed q (sites₁.filterMap (·.valid?)) = sitesNamed q (sites₂.filterMap (·.valid?)))
    (alone₁ : Alone g sites₁ q) (alone₂ : Alone g sites₂ q)
    (run₁ : g.runPass sites₁ MemorySink.sink {} = (.ok r₁, s₁))
    (run₂ : g.runPass sites₂ MemorySink.sink {} = (.ok r₂, s₂)) :
    r₁.artifacts.filter (·.host = q) = r₂.artifacts.filter (·.host = q) ∧
    (sitesNamed q (sites₁.filterMap (·.valid?)) ≠ [] →
      ∃ text file, s₁.get? file = some text ∧ s₂.get? file = some text ∧
        r₁.artifacts.filter (·.host = q) = [⟨q, binderName q, file⟩]) := by
  obtain ⟨p₁, rfl⟩ := runPass_ok run₁
  obtain ⟨p₂, rfl⟩ := runPass_ok run₂
  have model₁ := Grouping.get?_ofSites g.config.duplicateSlots (sites₁.filterMap (·.valid?)) q
  have model₂ := Grouping.get?_ofSites g.config.duplicateSlots (sites₂.filterMap (·.valid?)) q
  have models : (g.group sites₁).models.get? q = (g.group sites₂).models.get? q := by
    rw [group, group, model₁, model₂, same]
  -- One model of `q` in both passes gives one text and one file.
  cases found : (g.group sites₁).models.get? q with
  | none =>
    refine ⟨(p₁.records_of_none found).trans (p₂.records_of_none (models ▸ found)).symm, ?_⟩
    intro full
    rw [group, model₁] at found
    cases named : sitesNamed q (sites₁.filterMap (·.valid?)) with
    | nil => exact absurd named full
    | cons v rest => simp [named, HostModel.extend, HostModel.foldl_extend_some] at found
  | some m =>
    obtain ⟨text₁, file₁, made₁, held₁, record₁⟩ := p₁.artifact_of_alone alone₁ found
    obtain ⟨text₂, file₂, made₂, held₂, record₂⟩ := p₂.artifact_of_alone alone₂ (models ▸ found)
    rw [made₁] at made₂
    obtain ⟨rfl, rfl⟩ := Prod.mk.inj (Except.ok.inj made₂)
    exact ⟨record₁.trans record₂.symm, fun _ => ⟨text₁, file₁, held₁, held₂, record₁⟩⟩

/-- Sites of another host and an invalid site of its own leave a host's artifact. -/
theorem runPass_independent_interleaved :
    let g : Generator := { config := .ofCrate "app", renderer := { runtime := ":: viewbind" } }
    let home := Host.visible "app" [] "Home"
    let other := Host.visible "app" ["ui"] "Other"
    let sites₁ := [home.site 1 "title", home.site 2 "action"]
    let sites₂ := [other.site 1 "title", home.site 1 "title", home.site 7 "hidden" .private,
      other.site 2 "label", home.site 2 "action"]
    ∃ r₁ s₁ r₂ s₂, g.runPass sites₁ MemorySink.sink {} = (.ok r₁, s₁) ∧
      g.runPass sites₂ MemorySink.sink {} = (.ok r₂, s₂) ∧
      r₁.artifacts.filter (·.host = "app::Home") = r₂.artifacts.filter (·.host = "app::Home") ∧
      ∃ text file, s₁.get? file = some text ∧ s₂.get? file = some text ∧
        r₁.artifacts.filter (·.host = "app::Home") = [⟨"app::Home", binderName "app::Home", file⟩] := by
  intro g home other sites₁ sites₂
  have ok₁ : (g.runPass sites₁ MemorySink.sink {}).1.isOk = true := by decide +kernel
  have ok₂ : (g.runPass sites₂ MemorySink.sink {}).1.isOk = true := by decide +kernel
  obtain ⟨r₁, s₁, run₁⟩ := exists_run_of_isOk ok₁
  obtain ⟨r₂, s₂, run₂⟩ := exists_run_of_isOk ok₂
  have alone₁ : Alone g sites₁ "app::Home" := Alone.of_toOption (by decide +kernel)
  have alone₂ : Alone g sites₂ "app::Home" := Alone.of_toOption (by decide +kernel)
  have same : sitesNamed "app::Home" (sites₁.filterMap (·.valid?)) =
      sitesNamed "app::Home" (sites₂.filterMap (·.valid?)) := by cbv
  obtain ⟨records, written⟩ := runPass_independent same alone₁ alone₂ run₁ run₂
  have full : (sitesNamed "app::Home" (sites₁.filterMap (·.valid?))).length ≠ 0 := by decide +kernel
  exact ⟨r₁, s₁, r₂, s₂, run₁, run₂, records,
    written fun empty => full (congrArg List.length empty)⟩

end SlotBinding.Generator
