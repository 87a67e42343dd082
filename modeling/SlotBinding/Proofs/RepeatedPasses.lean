import Mathlib.Logic.Function.Iterate
import SlotBinding.Proofs.Conservation
import SlotBinding.Proofs.NameFaults
import SlotBinding.Proofs.TakenNames

/-!
# Repeated passes

A pass asks its sink for names that do not depend on the sink. In a sink that refuses whatever it was asked for
before, a second pass therefore creates nothing: `runPass_repeats` says what it reports.
-/

namespace SlotBinding

namespace Generator

variable {σ : Type u} {g : Generator} {k : Sink σ} {taken : σ → String → Prop} {sites : List Site}

/-- The files of some hosts up to the first one that stops the run. -/
def asked (g : Generator) : List HostModel → List String
  | [] => []
  | m :: rest =>
    match g.artifact m with
    | .error _ => []
    | .ok (_, file) => file :: asked g rest

theorem file_mem_asked {s t : σ} {cs : List Creation} (creates : Creates g k s cs t) {c : Creation}
    (member : c ∈ cs) : c.file ∈ g.asked (cs.map (·.model)) := by
  induction creates with
  | nil => cases member
  | @cons s next t d rest made answered tail ih =>
    rw [List.map_cons, asked, made]
    rcases List.mem_cons.mp member with rfl | later
    · exact List.mem_cons_self
    · exact List.mem_cons_of_mem _ (ih later)

theorem taken_writeModels (memory : k.Remembers taken) (ms : List HostModel) {s : σ} {name : String}
    (held : taken s name) : taken (g.writeModels k ms s).2 name := by
  induction ms generalizing s with
  | nil => exact held
  | cons m rest ih =>
    rw [writeModels]
    split
    · exact held
    · rename_i text file made
      exact ih (memory.keeps held file text)

theorem taken_of_asked (memory : k.Remembers taken) (final : ∀ s name text, taken (k.create s name text).1 name)
    (ms : List HostModel) (s : σ) : ∀ name ∈ g.asked ms, taken (g.writeModels k ms s).2 name := by
  induction ms generalizing s with
  | nil => simp [asked]
  | cons m rest ih =>
    intro name member
    rw [asked] at member
    rw [writeModels]
    cases made : g.artifact m with
    | error f =>
      rw [made] at member
      cases member
    | ok artifact =>
      obtain ⟨text, file⟩ := artifact
      rw [made] at member
      rcases List.mem_cons.mp member with rfl | later
      · exact taken_writeModels memory rest (final s name text)
      · exact ih (k.create s file text).1 name later

/-- Where all names are taken, writing changes nothing. -/
theorem writeModels_of_taken (memory : k.Remembers taken) (ms : List HostModel) {s : σ}
    (all : ∀ name ∈ g.asked ms, taken s name) : (g.writeModels k ms s).2 = s := by
  induction ms with
  | nil => rfl
  | cons m rest ih =>
    rw [asked] at all
    rw [writeModels]
    split
    · rfl
    · rename_i text file made
      rw [made] at all
      obtain ⟨e, refused⟩ := memory.refuses (all file List.mem_cons_self) text
      rw [refused]
      exact ih fun name member => all name (List.mem_cons_of_mem _ member)

theorem creates_of_taken (memory : k.Remembers taken) {s t : σ} {cs : List Creation}
    (creates : Creates g k s cs t) (all : ∀ name ∈ g.asked (cs.map (·.model)), taken s name) :
    t = s ∧ ∀ c ∈ cs, k.create s c.file c.text = (s, c.answer) ∧ c.answer ≠ none := by
  induction creates with
  | nil => exact ⟨rfl, by simp⟩
  | @cons s next t c rest made answered tail ih =>
    rw [List.map_cons, asked, made] at all
    obtain ⟨e, refused⟩ := memory.refuses (all c.file List.mem_cons_self) c.text
    have both : (next, c.answer) = (s, some e) := answered.symm.trans refused
    obtain ⟨rfl, answer⟩ := Prod.mk.inj both
    have written : c.answer ≠ none := by simp [answer]
    obtain ⟨same, others⟩ := ih fun name member => all name (List.mem_cons_of_mem _ member)
    exact ⟨same, List.forall_mem_cons.mpr ⟨⟨answered, written⟩, others⟩⟩

theorem writeModels_error {f : NameFault} {ms : List HostModel} {s : σ} (s' : σ)
    (stopped : (g.writeModels k ms s).1 = .error f) : (g.writeModels k ms s').1 = .error f := by
  induction ms generalizing s s' f with
  | nil => cases stopped
  | cons m rest ih =>
    rw [writeModels] at stopped ⊢
    split
    · rename_i fault made
      rw [made] at stopped
      exact stopped
    · rename_i text file made
      rw [made] at stopped
      cases inner : (g.writeModels k rest (k.create s file text).1).1 with
      | ok log =>
        simp only [inner] at stopped
        cases stopped
      | error fault =>
        simp only [inner] at stopped
        have later := ih (k.create s' file text).1 inner
        simp only [later]
        exact stopped

theorem runPass_error_iff {f : NameFault} {s : σ} :
    (g.runPass sites k s).1 = .error f ↔
      (g.writeModels k (g.group sites).models.values s).1 = .error f := by
  unfold runPass
  dsimp only
  split
  · rename_i fault t wrote
    rw [wrote]
    simp
  · rename_i log t wrote
    obtain ⟨text, -, asks⟩ := writeTable_of_writeModels wrote
    rw [wrote, asks]
    simp

/-! ### A second pass -/

/-- A sink has seen a pass: it refuses the names of all hosts, and that of the table if the pass comes so far. -/
structure Seen (g : Generator) (sites : List Site) (k : Sink σ) (taken : σ → String → Prop) (s : σ) : Prop where
  hosts : ∀ name ∈ g.asked (g.group sites).models.values, taken s name
  table : (∀ m ∈ (g.group sites).models.values, ∃ made, g.artifact m = .ok made) → taken s tableFile

theorem seen_runPass (memory : k.Remembers taken)
    (final : ∀ s name text, taken (k.create s name text).1 name) (s : σ) :
    Seen g sites k taken (g.runPass sites k s).2 := by
  have hosts := taken_of_asked (g := g) memory final (g.group sites).models.values s
  unfold runPass
  dsimp only
  split
  · rename_i fault t wrote
    rw [wrote] at hosts
    refine ⟨hosts, fun all => ?_⟩
    obtain ⟨log, t', ended⟩ := (writeModels_ok_iff (k := k) (s := s)).mpr all
    rw [ended] at wrote
    cases wrote
  · rename_i log t wrote
    obtain ⟨text, -, asks⟩ := writeTable_of_writeModels wrote
    rw [wrote] at hosts
    rw [asks]
    exact ⟨fun name member => memory.keeps (hosts name member) tableFile text, fun _ => final t tableFile text⟩

theorem runPass_of_seen (memory : k.Remembers taken) {s : σ} (seen : Seen g sites k taken s) :
    (g.runPass sites k s).2 = s := by
  have stays := writeModels_of_taken (g := g) memory _ seen.hosts
  unfold runPass
  dsimp only
  split
  · rename_i fault t wrote
    rw [wrote] at stays
    exact stays
  · rename_i log t wrote
    rw [wrote] at stays
    obtain rfl : t = s := stays
    obtain ⟨text, -, asks⟩ := writeTable_of_writeModels wrote
    have all := (writeModels_ok_iff (k := k) (s := t)).mp ⟨log, t, wrote⟩
    obtain ⟨e, refused⟩ := memory.refuses (seen.table all) text
    rw [asks, refused]

def afterPasses (g : Generator) (sites : List Site) (k : Sink σ) (s : σ) (n : Nat) : σ :=
  (fun s => (g.runPass sites k s).2)^[n] s

theorem afterPasses_succ (memory : k.Remembers taken)
    (final : ∀ s name text, taken (k.create s name text).1 name) (s : σ) (n : Nat) :
    g.afterPasses sites k s (n + 1) = g.afterPasses sites k s 1 := by
  unfold afterPasses
  rw [Function.iterate_succ_apply]
  exact Function.iterate_fixed (runPass_of_seen memory (seen_runPass memory final s)) n

/-- A later report of a pass against the first one. Nothing was created, what was reported before any creation
is reported again, and then there is one failure for each host in order and one for the table. -/
structure Repeats (g : Generator) (sites : List Site) (refusal : String → ArtifactError) (first later : Report) :
    Prop where
  artifacts : later.artifacts = []
  table : later.table = none
  diagnostics : ∃ early failures rest, first.diagnostics = early ++ rest ∧
    (∀ d ∈ early, d.kind = .invalidSite ∨ d.kind = .duplicateSlot) ∧
    (∀ d ∈ rest, d.kind = .artifactWriteFailure) ∧
    List.Forall₂ (fun m d => ∃ file, m.artifactPath = .ok file ∧ d = hostFailure m (refusal file))
      (g.group sites).models.values failures ∧
    later.diagnostics = early ++ failures ++ [tableFailure (refusal tableFile)]

theorem forall₂_failures {cs : List Creation} {refusal : String → ArtifactError}
    (answers : ∀ c ∈ cs, c.answer = some (refusal c.file))
    (files : ∀ c ∈ cs, c.model.artifactPath = .ok c.file) :
    List.Forall₂ (fun m d => ∃ file, m.artifactPath = .ok file ∧ d = hostFailure m (refusal file))
      (cs.map (·.model)) (cs.filterMap (·.failure?)) := by
  induction cs with
  | nil => exact .nil
  | cons c rest ih =>
    obtain ⟨answer, later⟩ := List.forall_mem_cons.mp answers
    obtain ⟨file, others⟩ := List.forall_mem_cons.mp files
    have failure : c.failure? = some (hostFailure c.model (refusal c.file)) := by
      rw [Creation.failure?, answer, Option.map_some]
    rw [List.map_cons, List.filterMap_cons_some failure]
    exact .cons ⟨c.file, file, rfl⟩ (ih later others)

namespace PassTrace

variable {s t : σ}

theorem kind_of_mem_front (p : PassTrace g sites k s t) {d : Diagnostic} (member : d ∈ p.early) :
    d.kind = .invalidSite ∨ d.kind = .duplicateSlot :=
  (List.mem_append.mp member).imp kind_of_mem_rejections kind_of_mem_group

theorem artifact_of_mem (p : PassTrace g sites k s t) :
    ∀ m ∈ (g.group sites).models.values, ∃ made, g.artifact m = .ok made := by
  intro m member
  rw [← p.models] at member
  obtain ⟨c, among, rfl⟩ := List.mem_map.mp member
  exact ⟨_, creates_made p.creates c among⟩

theorem repeats {s' t' : σ} (first : PassTrace g sites k s t) (later : PassTrace g sites k s' t')
    (memory : k.Remembers taken) {refusal : String → ArtifactError}
    (refuses : ∀ {s name text}, taken s name → (k.create s name text).2 = some (refusal name))
    (seen : Seen g sites k taken s') : Repeats g sites refusal first.report later.report := by
  obtain ⟨same, refused⟩ := creates_of_taken memory later.creates (by rw [later.models]; exact seen.hosts)
  have answers : ∀ c ∈ later.creations, c.answer = some (refusal c.file) := by
    intro c member
    have held : taken s' c.file := seen.hosts c.file (later.models ▸ file_mem_asked later.creates member)
    exact (congrArg Prod.snd (refused c member).1).symm.trans (refuses held)
  have tableAnswer : later.tableAnswer = some (refusal tableFile) := by
    have held : taken later.middle tableFile := by
      rw [same]
      exact seen.table later.artifact_of_mem
    exact (congrArg Prod.snd later.created).symm.trans (refuses held)
  have none : later.creations.filter (·.isWritten) = [] := by
    apply List.filter_eq_nil_iff.mpr
    intro c member
    simp [Creation.isWritten, answers c member]
  refine ⟨?_, ?_, first.early, later.creations.filterMap (·.failure?),
    first.creations.filterMap (·.failure?) ++ (first.tableAnswer.map tableFailure).toList, ?_, ?_, ?_, ?_, ?_⟩
  · rw [artifacts_report, none, List.map_nil]
  · simp [report, reportOf, tableAnswer]
  · rw [diagnostics_report, List.append_assoc]
  · exact fun d member => first.kind_of_mem_front member
  · intro d member
    rcases List.mem_append.mp member with host | table
    · exact (of_mem_failures host).1
    · exact (of_mem_tableFailure table).1
  · rw [← later.models]
    exact forall₂_failures answers fun c member => later.file_of_mem member
  · rw [diagnostics_report, tableAnswer]
    rfl

end PassTrace

/-! ### The sink in memory behind one that refuses names -/

/-- What the sink in memory says to a name that it has given away or that is refused before it is asked. -/
def refusal (names : List String) (fault : Files.Fault) (name : String) : ArtifactError :=
  if name ∈ names then .io name fault else .alreadyExists name

section Refusing

variable (names : List String) (fault : Files.Fault)

theorem remembers_refusing :
    (MemorySink.sink.refusing names fault).Remembers fun s name => name ∈ names ∨ MemorySink.Holds s name :=
  MemorySink.remembers.refusing names fault

theorem taken_refusing (s : MemorySink) (name text : String) :
    name ∈ names ∨ MemorySink.Holds ((MemorySink.sink.refusing names fault).create s name text).1 name := by
  by_cases among : name ∈ names
  · exact .inl among
  · rw [Sink.create_refusing_of_not_mem among]
    exact .inr (MemorySink.holds_create s name text)

theorem answer_refusing {s : MemorySink} {name text : String} (held : name ∈ names ∨ MemorySink.Holds s name) :
    ((MemorySink.sink.refusing names fault).create s name text).2 = some (refusal names fault name) := by
  unfold refusal
  by_cases among : name ∈ names
  · rw [Sink.create_refusing_of_mem among, if_pos among]
  · have stored := MemorySink.create_of_holds (held.resolve_left among) text
    rw [Sink.create_refusing_of_not_mem among, if_neg among]
    exact congrArg Prod.snd stored

end Refusing

/-- Passes over the same sites, to one sink in memory that refuses some names. Whatever the first pass comes to,
the later ones leave the sink as it is after the first. A name that stops the first pass stops all. Otherwise
each later pass repeats the reports on sites and slots, and reports a failure for each host and for the table. -/
theorem runPass_repeats (g : Generator) (sites : List Site) (names : List String) (fault : Files.Fault)
    (s : MemorySink) (n : Nat) :
    let k := MemorySink.sink.refusing names fault
    let after := g.afterPasses sites k s
    after (n + 1) = after 1 ∧
      (∀ f, (g.runPass sites k (after (n + 1))).1 = .error f ↔ (g.runPass sites k s).1 = .error f) ∧
      ∀ first, (g.runPass sites k s).1 = .ok first →
        ∃ later, (g.runPass sites k (after (n + 1))).1 = .ok later ∧
          Repeats g sites (refusal names fault) first later := by
  intro k after
  have memory := remembers_refusing names fault
  have same : after (n + 1) = after 1 := afterPasses_succ memory (taken_refusing names fault) s n
  have seen : Seen g sites k (fun s name => name ∈ names ∨ MemorySink.Holds s name) (g.runPass sites k s).2 :=
    seen_runPass memory (taken_refusing names fault) s
  refine ⟨same, ?_, ?_⟩
  · intro f
    rw [runPass_error_iff, runPass_error_iff]
    exact ⟨writeModels_error s, writeModels_error _⟩
  · intro first ok
    obtain ⟨p, rfl⟩ := runPass_ok (k := k) (Prod.ext ok rfl)
    have again := (runPass_ok_iff (k := k) (s := (g.runPass sites k s).2)).mpr p.artifact_of_mem
    obtain ⟨later, t, ran⟩ := again
    obtain ⟨p', rfl⟩ := runPass_ok ran
    rw [same]
    exact ⟨p'.report, congrArg Prod.fst ran, p.repeats p' memory (answer_refusing names fault) seen⟩

/-- Two hosts with one file, a host that is refused, a slot that is declared twice and a field out of reach. -/
theorem runPass_repeats_of_twins :
    let g : Generator := { config := .ofCrate "app", renderer := { runtime := ":: viewbind" } }
    let nested := Host.visible "app" ["a"] "C"
    let flat := Host.visible "app" [] "a__C"
    let other := Host.visible "app" [] "D"
    let sites := [nested.site 1 "x", nested.site 1 "y", flat.site 2 "x", flat.site 3 "z" .private, other.site 4 "x"]
    let names := ["viewbind/app__D__Bind.rs"]
    let k := MemorySink.sink.refusing names .notFound
    let after := g.afterPasses sites k {}
    after 3 = after 1 ∧ ∃ first later, (g.runPass sites k {}).1 = .ok first ∧ first.artifacts.length = 1 ∧
      (g.runPass sites k (after 3)).1 = .ok later ∧ Repeats g sites (refusal names .notFound) first later := by
  intro g nested flat other sites names k after
  obtain ⟨same, _, reports⟩ := runPass_repeats g sites names .notFound {} 2
  obtain ⟨first, t, ran, one⟩ := exists_run_of_any (x := g.runPass sites k {})
    (p := fun r => decide (r.artifacts.length = 1)) (by decide +kernel)
  obtain ⟨later, again, repeats⟩ := reports first (congrArg Prod.fst ran)
  exact ⟨same, first, later, congrArg Prod.fst ran, of_decide_eq_true one, again, repeats⟩

end Generator

end SlotBinding
