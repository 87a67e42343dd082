import SlotBinding.Generation.Pass
import SlotBinding.Proofs.Grouping
import SlotBinding.Proofs.Results
import SlotBinding.Sink.Memory

/-!
# What a pass asks of its sink

`Creates` lists the artifacts that were asked for, with the sink's answers. `runPass_ok` reads a report
off that list, for every sink; the rest says what the sink in memory holds after it.
-/

namespace SlotBinding

namespace Generator

variable {σ : Type u} {g : Generator} {k : Sink σ}

structure Creation where
  model : HostModel
  text : String
  file : String
  answer : Option ArtifactError

theorem artifact_ok {m : HostModel} {text file : String} (h : g.artifact m = .ok (text, file)) :
    g.renderer.binder m = .ok text ∧ m.artifactPath = .ok file := by
  obtain ⟨text', source, h⟩ := bind_eq_ok h
  obtain ⟨file', path, h⟩ := bind_eq_ok h
  cases h
  exact ⟨source, path⟩

namespace Creation

def record (c : Creation) : ArtifactRecord :=
  { host := c.model.qualifiedName, binderName := c.model.binderName, file := c.file }

def isWritten (c : Creation) : Bool := c.answer.isNone

def failure? (c : Creation) : Option Diagnostic := c.answer.map (hostFailure c.model)

end Creation

/-- The creations that lead from one state of a sink to another. -/
inductive Creates (g : Generator) (k : Sink σ) : σ → List Creation → σ → Prop where
  | nil (s : σ) : Creates g k s [] s
  | cons {s t u : σ} {c : Creation} {rest : List Creation}
      (made : g.artifact c.model = .ok (c.text, c.file))
      (answered : k.create s c.file c.text = (t, c.answer))
      (tail : Creates g k t rest u) : Creates g k s (c :: rest) u

theorem creates_append {s u : σ} {cs ds : List Creation} (h : Creates g k s (cs ++ ds) u) :
    ∃ t, Creates g k s cs t ∧ Creates g k t ds u := by
  induction cs generalizing s with
  | nil => exact ⟨s, .nil s, h⟩
  | cons c rest ih =>
    cases h with
    | cons made answered tail =>
      obtain ⟨t, front, back⟩ := ih tail
      exact ⟨t, .cons made answered front, back⟩

theorem creates_made {s t : σ} {cs : List Creation} (h : Creates g k s cs t) :
    ∀ c ∈ cs, g.artifact c.model = .ok (c.text, c.file) := by
  induction h with
  | nil => simp
  | cons made _ _ ih =>
    intro c member
    rcases List.mem_cons.mp member with rfl | later
    · exact made
    · exact ih c later

def WriteLog.ofCreations (cs : List Creation) : WriteLog :=
  cs.foldr (fun c rest => .record c.model c.file c.answer rest) {}

theorem ofCreations_eq (cs : List Creation) :
    WriteLog.ofCreations cs =
      { written := (cs.filter (·.isWritten)).map (·.model)
        artifacts := (cs.filter (·.isWritten)).map (·.record)
        diagnostics := cs.filterMap (·.failure?) } := by
  induction cs with
  | nil => rfl
  | cons c rest ih =>
    rw [WriteLog.ofCreations, List.foldr_cons, ← WriteLog.ofCreations, ih]
    cases answer : c.answer with
    | none => simp [WriteLog.record, Creation.isWritten, Creation.failure?, Creation.record, answer]
    | some e => simp [WriteLog.record, Creation.isWritten, Creation.failure?, answer]

theorem writeModels_ok {ms : List HostModel} {s t : σ} {log : WriteLog}
    (h : g.writeModels k ms s = (.ok log, t)) :
    ∃ cs, cs.map (·.model) = ms ∧ Creates g k s cs t ∧ log = .ofCreations cs := by
  induction ms generalizing s log with
  | nil =>
    obtain ⟨ok, rfl⟩ := Prod.mk.inj h
    exact ⟨[], rfl, .nil s, (Except.ok.inj ok).symm⟩
  | cons m rest ih =>
    rw [writeModels] at h
    split at h
    · cases (Prod.mk.inj h).1
    · rename_i text file made
      obtain ⟨ok, ended⟩ := Prod.mk.inj h
      cases tail : (writeModels g k rest (k.create s file text).1).1 with
      | error f => rw [tail] at ok; cases ok
      | ok log' =>
        rw [tail] at ok
        obtain ⟨cs, models, creates, rfl⟩ := ih (Prod.ext tail ended)
        refine ⟨⟨m, text, file, (k.create s file text).2⟩ :: cs, ?_, ?_, ?_⟩
        · rw [List.map_cons, models]
        · exact .cons made rfl creates
        · exact (Except.ok.inj ok).symm

/-! ### The whole pass -/

/-- What happened in a pass that came to its end. -/
structure PassTrace (g : Generator) (sites : List Site) (k : Sink σ) (s t : σ) where
  creations : List Creation
  /-- The state of the sink when all hosts were dealt with. -/
  middle : σ
  tableText : String
  tableAnswer : Option ArtifactError
  models : creations.map (·.model) = (g.group sites).models.values
  creates : Creates g k s creations middle
  table : g.renderer.table ((creations.filter (·.isWritten)).map (·.model)) = .ok tableText
  created : k.create middle tableFile tableText = (t, tableAnswer)

namespace PassTrace

variable {sites : List Site} {s t : σ}

def early (_ : PassTrace g sites k s t) : List Diagnostic :=
  sites.filterMap (·.rejection?) ++ (g.group sites).diagnostics

def report (p : PassTrace g sites k s t) : Report :=
  reportOf p.early (.ofCreations p.creations) p.tableAnswer

theorem mem_models (p : PassTrace g sites k s t) {c : Creation} (member : c ∈ p.creations) :
    c.model ∈ (g.group sites).models.values := by
  rw [← p.models]
  exact List.mem_map.mpr ⟨c, member, rfl⟩

theorem ordered (p : PassTrace g sites k s t) :
    p.creations.Pairwise fun c d => c.model.qualifiedName < d.model.qualifiedName := by
  have values := Grouping.pairwise_values g.config.duplicateSlots (sites.filterMap (·.valid?))
  rw [← group, ← p.models] at values
  exact (List.pairwise_map (f := fun c : Creation => c.model)).mp values

theorem file_of_mem (p : PassTrace g sites k s t) {c : Creation} (member : c ∈ p.creations) :
    c.model.artifactPath = .ok c.file :=
  (artifact_ok (creates_made p.creates c member)).2

theorem model_unique (p : PassTrace g sites k s t) {c d : Creation} (memberC : c ∈ p.creations)
    (memberD : d ∈ p.creations) (same : c.model.qualifiedName = d.model.qualifiedName) : c.model = d.model := by
  have foundC := Grouping.get?_qualifiedName (p.mem_models memberC)
  have foundD := Grouping.get?_qualifiedName (p.mem_models memberD)
  rw [same, foundD] at foundC
  exact (Option.some.inj foundC).symm

theorem artifacts_report (p : PassTrace g sites k s t) :
    p.report.artifacts = (p.creations.filter (·.isWritten)).map (·.record) :=
  congrArg WriteLog.artifacts (ofCreations_eq p.creations)

theorem diagnostics_report (p : PassTrace g sites k s t) :
    p.report.diagnostics =
      p.early ++ p.creations.filterMap (·.failure?) ++ (p.tableAnswer.map tableFailure).toList := by
  rw [report, reportOf, ofCreations_eq]

theorem exists_creation (p : PassTrace g sites k s t) {a : ArtifactRecord}
    (recorded : a ∈ p.report.artifacts) : ∃ c ∈ p.creations, c.answer = none ∧ c.record = a := by
  rw [artifacts_report] at recorded
  obtain ⟨c, there, rfl⟩ := List.mem_map.mp recorded
  obtain ⟨asked, written⟩ := List.mem_filter.mp there
  exact ⟨c, asked, Option.isNone_iff_eq_none.mp written, rfl⟩

theorem recorded_of_answer (p : PassTrace g sites k s t) {c : Creation} (member : c ∈ p.creations)
    (written : c.answer = none) : c.record ∈ p.report.artifacts := by
  rw [artifacts_report]
  exact List.mem_map.mpr ⟨c, List.mem_filter.mpr ⟨member, by simp [Creation.isWritten, written]⟩, rfl⟩

theorem reported_of_answer (p : PassTrace g sites k s t) {c : Creation} (member : c ∈ p.creations)
    {e : ArtifactError} (refused : c.answer = some e) : hostFailure c.model e ∈ p.report.diagnostics := by
  rw [diagnostics_report]
  refine List.mem_append_left _ (List.mem_append_right _ ?_)
  exact List.mem_filterMap.mpr ⟨c, member, by simp [Creation.failure?, refused]⟩

end PassTrace

theorem runPass_ok {sites : List Site} {s t : σ} {r : Report}
    (h : g.runPass sites k s = (.ok r, t)) : ∃ p : PassTrace g sites k s t, r = p.report := by
  unfold runPass at h
  dsimp only at h
  split at h
  · cases (Prod.mk.inj h).1
  · rename_i log middle wrote
    obtain ⟨cs, models, creates, rfl⟩ := writeModels_ok wrote
    have written : (WriteLog.ofCreations cs).written = (cs.filter (·.isWritten)).map (·.model) :=
      congrArg WriteLog.written (ofCreations_eq cs)
    rw [writeTable, written] at h
    split at h
    · cases (Prod.mk.inj h).1
    · rename_i answer ended asked
      split at asked
      · cases (Prod.mk.inj asked).1
      · rename_i text table
        obtain ⟨answerEq, endedEq⟩ := Prod.mk.inj asked
        obtain ⟨rEq, tEq⟩ := Prod.mk.inj h
        refine ⟨⟨cs, middle, text, answer, models, creates, table, ?_⟩, (Except.ok.inj rEq).symm⟩
        exact Prod.ext (endedEq.trans tEq) (Except.ok.inj answerEq)

end Generator

/-! ### The sink in memory -/

namespace MemorySink

theorem create_of_none {s : MemorySink} {name : String} (free : s.get? name = none) (text : String) :
    create s name text = (s.insert name text, none) := by
  simp [create, SortedMap.contains, free]

theorem create_of_some {s : MemorySink} {name held : String} (taken : s.get? name = some held)
    (text : String) : create s name text = (s, some (.alreadyExists name)) := by
  simp [create, SortedMap.contains, taken]

theorem get?_create_of_some {s : MemorySink} {name held : String} (taken : s.get? name = some held)
    (other text : String) : (create s other text).1.get? name = some held := by
  cases free : s.get? other with
  | some _ => rw [create_of_some free]; exact taken
  | none =>
    have different : name ≠ other := by
      rintro rfl
      simp [taken] at free
    rw [create_of_none free, SortedMap.get?_insert_of_ne s different]
    exact taken

theorem get?_create_of_ne (s : MemorySink) {name other : String} (different : name ≠ other)
    (text : String) : (create s other text).1.get? name = s.get? name := by
  cases free : s.get? other with
  | some _ => rw [create_of_some free]
  | none => rw [create_of_none free, SortedMap.get?_insert_of_ne s different]

end MemorySink

namespace Generator

variable {g : Generator} {s t : MemorySink} {cs : List Creation}

theorem creates_memory_of_some {name held : String} (h : Creates g MemorySink.sink s cs t)
    (taken : s.get? name = some held) : t.get? name = some held := by
  induction h with
  | nil => exact taken
  | @cons s next t c rest made answered tail ih =>
    have stays := MemorySink.get?_create_of_some taken c.file c.text
    rw [show MemorySink.create s c.file c.text = (next, c.answer) from answered] at stays
    exact ih stays

theorem creates_memory_of_ne {name : String} (h : Creates g MemorySink.sink s cs t)
    (different : ∀ c ∈ cs, c.file ≠ name) : t.get? name = s.get? name := by
  induction h with
  | nil => rfl
  | @cons s next t c rest made answered tail ih =>
    have stays := MemorySink.get?_create_of_ne s (different c List.mem_cons_self).symm c.text
    rw [show MemorySink.create s c.file c.text = (next, c.answer) from answered] at stays
    rw [ih fun d later => different d (List.mem_cons_of_mem _ later), stays]

theorem creates_memory_holds {c : Creation} (h : Creates g MemorySink.sink s cs t) (member : c ∈ cs) :
    (t.get? c.file).isSome := by
  induction h with
  | nil => simp at member
  | @cons s next t d rest made answered tail ih =>
    rcases List.mem_cons.mp member with rfl | later
    · have held : (next.get? c.file).isSome := by
        have state : (MemorySink.create s c.file c.text).1 = next := congrArg Prod.fst answered
        cases free : s.get? c.file with
        | none => rw [MemorySink.create_of_none free] at state; simp [← state]
        | some _ => rw [MemorySink.create_of_some free] at state; simp [← state, free]
      obtain ⟨text, found⟩ := Option.isSome_iff_exists.mp held
      rw [creates_memory_of_some tail found]
      rfl
    · exact ih later

theorem creates_memory_text {c : Creation} (h : Creates g MemorySink.sink s cs t) (member : c ∈ cs)
    (written : c.answer = none) : t.get? c.file = some c.text := by
  induction h with
  | nil => simp at member
  | @cons s next t d rest made answered tail ih =>
    rcases List.mem_cons.mp member with rfl | later
    · apply creates_memory_of_some tail
      have create : MemorySink.create s c.file c.text = (next, c.answer) := answered
      cases free : s.get? c.file with
      | none =>
        rw [MemorySink.create_of_none free] at create
        obtain ⟨rfl, _⟩ := Prod.mk.inj create
        exact SortedMap.get?_insert_self _ _ _
      | some held =>
        rw [MemorySink.create_of_some free, written] at create
        cases congrArg Prod.snd create
    · exact ih later

/-- A fresh sink in memory refuses exactly the names that were asked for before. -/
theorem answer_memory {before after : List Creation} {c : Creation}
    (h : Creates g MemorySink.sink {} (before ++ c :: after) t) :
    c.answer = if c.file ∈ before.map (·.file) then some (.alreadyExists c.file) else none := by
  obtain ⟨middle, front, back⟩ := creates_append h
  cases back with
  | cons made answered tail =>
    have answer : (MemorySink.create middle c.file c.text).2 = c.answer := congrArg Prod.snd answered
    rw [← answer]
    split
    · rename_i asked
      obtain ⟨d, member, same⟩ := List.mem_map.mp asked
      have held := creates_memory_holds front member
      obtain ⟨text, found⟩ := Option.isSome_iff_exists.mp held
      rw [MemorySink.create_of_some (same ▸ found)]
    · rename_i fresh
      have free : middle.get? c.file = none := by
        rw [creates_memory_of_ne front]
        · rfl
        · exact fun d member same => fresh (List.mem_map.mpr ⟨d, member, same⟩)
      rw [MemorySink.create_of_none free]

end Generator

end SlotBinding
