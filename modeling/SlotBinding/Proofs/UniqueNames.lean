import Mathlib.Data.List.Forall2
import Mathlib.Data.List.Nodup
import SlotBinding.Injection.Registry
import SlotBinding.Proofs.BinderTable
import SlotBinding.Proofs.Conditions
import SlotBinding.Proofs.TakenNames

/-!
# Unique names in the table

Hosts of different names may ask for one identifier. A sink that remembers its names lets one of them have it,
so that the table of a pass names no binder twice: `runPass_unique`.
-/

namespace SlotBinding

/-- A binder in the table: the conditions on it, its identifier and the file that is included for it. -/
structure TableEntry where
  conditions : List String
  ident : String
  file : String

namespace TableEntry

def inclusion (e : TableEntry) : List String :=
  e.conditions ++
    ["include ! (concat ! (env ! (\"OUT_DIR\") ,", Text.Quoted.literal ("/" ++ e.file) ++ ")) ;"]

def mention (e : TableEntry) : String := phrases (e.conditions ++ ["&", e.ident])

structure Of (m : HostModel) (e : TableEntry) : Prop where
  conditions : e.conditions = Renderer.conditions m
  ident : m.binderIdent = .ok e.ident
  file : m.artifactPath = .ok e.file

theorem Of.file_eq {m : HostModel} {e : TableEntry} (own : Of m e) :
    e.file = artifactDir ++ "/" ++ (e.ident ++ ".rs") := by
  have path := HostModel.artifactPath_of_binderIdent own.ident
  rw [own.file] at path
  exact Except.ok.inj path

/-- A file has the name of its identifier, so that two entries with one identifier have one file. -/
theorem nodup_idents {ms : List HostModel} {es : List TableEntry} (own : List.Forall₂ Of ms es)
    (files : (es.map (·.file)).Nodup) : (es.map (·.ident)).Nodup := by
  have named : es.map (·.file) = (es.map (·.ident)).map fun x => artifactDir ++ "/" ++ (x ++ ".rs") := by
    clear files
    induction own with
    | nil => rfl
    | cons first _ ih => rw [List.map_cons, List.map_cons, List.map_cons, first.file_eq, ih]
  rw [named] at files
  exact List.Nodup.of_map _ files

end TableEntry

namespace Renderer

/-- The text is that of a table with the entries. -/
def Tabulates (r : Renderer) (es : List TableEntry) (text : String) : Prop :=
  text = phrases
    (es.flatMap (·.inclusion) ++ r.entryList (es.map (·.mention)) ++ r.installer ++ r.startup)

theorem exists_entry {m : HostModel} {part : List String × String} (made : tablePart m = .ok part) :
    ∃ e, TableEntry.Of m e ∧ part = (e.inclusion, e.mention) := by
  obtain ⟨file, path, made⟩ := bind_eq_ok made
  obtain ⟨ident, name, made⟩ := bind_eq_ok made
  exact ⟨⟨conditions m, ident, file⟩, ⟨rfl, name, path⟩, (Except.ok.inj made).symm⟩

theorem exists_entries {ms : List HostModel} {parts : List (List String × String)}
    (made : ms.mapM tablePart = .ok parts) :
    ∃ es, List.Forall₂ TableEntry.Of ms es ∧ parts = es.map fun e => (e.inclusion, e.mention) := by
  induction ms generalizing parts with
  | nil =>
    cases made
    exact ⟨[], .nil, rfl⟩
  | cons m rest ih =>
    rw [List.mapM_cons] at made
    obtain ⟨part, first, made⟩ := bind_eq_ok made
    obtain ⟨more, others, made⟩ := bind_eq_ok made
    obtain ⟨e, own, rfl⟩ := exists_entry first
    obtain ⟨es, later, rfl⟩ := ih others
    exact ⟨e :: es, .cons own later, (Except.ok.inj made).symm⟩

theorem tabulates_of_table {r : Renderer} {ms : List HostModel} {text : String}
    (made : r.table ms = .ok text) : ∃ es, List.Forall₂ TableEntry.Of ms es ∧ r.Tabulates es text := by
  obtain ⟨parts, all, made⟩ := bind_eq_ok made
  obtain ⟨es, own, rfl⟩ := exists_entries all
  refine ⟨es, own, ?_⟩
  unfold Tabulates
  rw [← Except.ok.inj made, List.flatMap_map, List.map_map]
  rfl

end Renderer

namespace Registry

def replaced (r : Registry) : List Binder → List Binder
  | [] => []
  | b :: rest => (r.register b).1.toList ++ replaced (r.register b).2 rest

theorem install_of_fresh {r : Registry} {bs : List Binder} (names : (bs.map (·.name)).Nodup)
    (fresh : ∀ b ∈ bs, r.get? b.name = none) :
    r.replaced bs = [] ∧ (r.install bs).size = r.size + bs.length := by
  induction bs generalizing r with
  | nil => exact ⟨rfl, rfl⟩
  | cons b rest ih =>
    obtain ⟨own, others⟩ := List.nodup_cons.mp names
    obtain ⟨free, later⟩ := List.forall_mem_cons.mp fresh
    have still : ∀ c ∈ rest, (r.register b).2.get? c.name = none := by
      intro c member
      have different : c.name ≠ b.name := by
        intro same
        exact own (List.mem_map.mpr ⟨c, member, same⟩)
      exact (SortedMap.get?_insert_of_ne r different b).trans (later c member)
    obtain ⟨nothing, size⟩ := ih others still
    have first : (r.register b).1 = none := free
    have one : (r.register b).2.size = r.size + 1 := SortedMap.size_insert_of_none free b
    refine ⟨?_, ?_⟩
    · rw [replaced, first, nothing]
      rfl
    · have step : r.install (b :: rest) = (r.register b).2.install rest := rfl
      rw [step, size, one, List.length_cons]
      omega

end Registry

/-! ### Passes -/

namespace Generator

variable {σ : Type u} {g : Generator} {k : Sink σ} {taken : σ → String → Prop} {sites : List Site} {s t : σ}

/-- The file of the entry was created for the host, with the source of a binder of that identifier. -/
structure Creation.Defines (g : Generator) (c : Creation) (e : TableEntry) : Prop where
  written : c.answer = none
  file : e.file = c.file
  text : ∃ typePath, c.text = phrases (Renderer.declaration c.model e.ident ++
    Renderer.nameConstant c.model e.ident ++ g.renderer.contract c.model e.ident typePath)

theorem defines_of_made {c : Creation} {e : TableEntry} (made : g.artifact c.model = .ok (c.text, c.file))
    (written : c.answer = none) (own : TableEntry.Of c.model e) : c.Defines g e := by
  obtain ⟨binder, path⟩ := artifact_ok made
  obtain ⟨ident, typePath, name, _, text⟩ := isBinderText_of_binder binder
  have same : ident = e.ident := by
    rw [own.ident] at name
    exact (Except.ok.inj name).symm
  have file : e.file = c.file := by
    have paths := own.file
    rw [path] at paths
    exact (Except.ok.inj paths).symm
  exact ⟨written, file, typePath, same ▸ text⟩

/-- What a pass says of the names of its binders. The calls are those of its sink, and the entries of the table
are those of the hosts that were created in it, in the order of the report. -/
structure UniqueNames (g : Generator) (sites : List Site) (k : Sink σ) (s t : σ) (r : Report)
    (cs : List Creation) (table : Sink.Call) (es : List TableEntry) : Prop where
  calls : g.runPass sites k.noting (s, []) = (.ok r, (t, cs.map (·.call) ++ [table]))
  tabulates : table.name = tableFile ∧ g.renderer.Tabulates es table.text
  idents : (es.map (·.ident)).Nodup
  files : (es.map (·.file)).Nodup
  created : List.Forall₂ (Creation.Defines g) (cs.filter (·.isWritten)) es
  records : r.artifacts = (cs.filter (·.isWritten)).map (·.record)
  hosts : (r.artifacts.map (·.host)).Pairwise fun a b => Text.bytes a < Text.bytes b
  binderNames : r.binderNames.Nodup
  /-- Binders of the recorded names replace none of each other. -/
  installs : ∀ bs : List Binder, bs.map (·.name) = r.binderNames →
    Registry.replaced {} bs = [] ∧ (Registry.ofTable bs).size = es.length

theorem creates_of_noting {s t : σ × List Sink.Call} {cs : List Creation} (creates : Creates g k.noting s cs t) :
    Creates g k s.1 cs t.1 := by
  induction creates with
  | nil => exact .nil _
  | @cons s next t c rest made answered _ ih =>
    obtain ⟨rfl, answer⟩ := Prod.mk.inj answered
    have plain : k.create s.1 c.file c.text = ((k.create s.1 c.file c.text).1, c.answer) := by rw [← answer]
    exact .cons made plain ih

theorem forall₂_defines {cs : List Creation} (creates : Creates g k s cs t) {es : List TableEntry}
    (own : List.Forall₂ TableEntry.Of (writtenModels cs) es) :
    List.Forall₂ (Creation.Defines g) (cs.filter (·.isWritten)) es := by
  have made := creates_made creates
  rw [writtenModels, List.forall₂_map_left_iff] at own
  have written : ∀ c ∈ cs.filter (·.isWritten), c ∈ cs ∧ c.answer = none := by
    intro c member
    obtain ⟨among, answer⟩ := List.mem_filter.mp member
    exact ⟨among, Option.isNone_iff_eq_none.mp answer⟩
  generalize cs.filter (·.isWritten) = ds at own written
  induction own with
  | nil => exact .nil
  | cons first _ ih =>
    obtain ⟨⟨among, answer⟩, others⟩ := List.forall_mem_cons.mp written
    exact .cons (defines_of_made (made _ among) answer first) (ih others)

theorem nodup_files (memory : k.Remembers taken) {cs : List Creation} (creates : Creates g k s cs t)
    {es : List TableEntry} (created : List.Forall₂ (Creation.Defines g) (cs.filter (·.isWritten)) es) :
    (es.map (·.file)).Nodup := by
  have apart := List.pairwise_map.mpr (pairwise_written memory creates)
  have same : es.map (·.file) = (cs.filter (·.isWritten)).map (·.file) := by
    generalize cs.filter (·.isWritten) = ds at created
    induction created with
    | nil => rfl
    | cons first _ ih => rw [List.map_cons, List.map_cons, first.file, ih]
  rw [same]
  exact apart

theorem hosts_report (p : PassTrace g sites k s t) :
    (p.report.artifacts.map (·.host)).Pairwise fun a b => Text.bytes a < Text.bytes b := by
  have written := p.ordered.filter (·.isWritten)
  rw [p.artifacts_report, List.map_map]
  exact List.pairwise_map.mpr (written.imp Text.bytes_lt_bytes)

theorem nodup_binderNames (p : PassTrace g sites k s t) : p.report.binderNames.Nodup := by
  have written := p.ordered.filter (·.isWritten)
  rw [Report.binderNames, p.artifacts_report, List.map_map]
  refine List.pairwise_map.mpr (written.imp ?_)
  intro c d below same
  have names : c.model.qualifiedName = d.model.qualifiedName := by
    have suffixed : c.model.qualifiedName ++ binderSuffix = d.model.qualifiedName ++ binderSuffix := same
    simpa using suffixed
  rw [names] at below
  exact String.lt_irrefl _ below

theorem unique_of_remembers (memory : k.Remembers taken) {r : Report}
    (h : g.runPass sites k s = (.ok r, t)) : ∃ cs table es, UniqueNames g sites k s t r cs table es := by
  obtain ⟨calls, p, rfl, noted⟩ := exists_noted_trace h
  obtain ⟨es, own, reads⟩ := Renderer.tabulates_of_table p.table
  have created := forall₂_defines p.creates own
  have files := nodup_files memory (creates_of_noting p.creates) created
  have names := nodup_binderNames p
  refine ⟨p.creations, ⟨tableFile, p.tableText, p.tableAnswer⟩, es, ?_⟩
  exact
    { calls := noted
      tabulates := ⟨rfl, reads⟩
      idents := TableEntry.nodup_idents own files
      files
      created
      records := p.artifacts_report
      hosts := hosts_report p
      binderNames := names
      installs := by
        intro bs same
        have fresh : ∀ b ∈ bs, ({} : Registry).get? b.name = none := fun b _ => rfl
        obtain ⟨nothing, size⟩ := Registry.install_of_fresh (same ▸ names) fresh
        have length : bs.length = es.length := by
          rw [← List.length_map (·.name), same, Report.binderNames, p.artifacts_report, ← created.length_eq]
          simp only [List.length_map]
        have none : ({} : Registry).size = 0 := rfl
        refine ⟨nothing, ?_⟩
        rw [Registry.ofTable, size, none, length, Nat.zero_add] }

/-- In the sink in memory and in the sink in a directory, whatever their state, the table of a pass has different
identifiers and different files. Each file was created in the pass with the source of the binder of that
identifier, the hosts stand in increasing order, and installing the table into an empty registry replaces
nothing. -/
theorem runPass_unique (g : Generator) (sites : List Site) :
    (∀ s t r, g.runPass sites MemorySink.sink s = (.ok r, t) →
      ∃ cs table es, UniqueNames g sites MemorySink.sink s t r cs table es) ∧
    ∀ s t r, g.runPass sites DirectorySink.sink s = (.ok r, t) →
      ∃ cs table es, UniqueNames g sites DirectorySink.sink s t r cs table es :=
  ⟨fun _ _ _ ran => unique_of_remembers MemorySink.remembers ran,
    fun _ _ _ ran => unique_of_remembers DirectorySink.remembers ran⟩

/-- Two hosts that ask for one identifier, and a third one. -/
theorem runPass_unique_of_twins :
    let g : Generator := { config := .ofCrate "app", renderer := { runtime := ":: viewbind" } }
    let nested := Host.visible "app" ["a"] "C"
    let flat := Host.visible "app" [] "a__C"
    let other := Host.visible "app" [] "D"
    let sites := [nested.site 1 "x", flat.site 2 "y", other.site 3 "z"]
    (∃ r t cs table es, g.runPass sites MemorySink.sink {} = (.ok r, t) ∧ r.artifacts.length = 2 ∧
      UniqueNames g sites MemorySink.sink {} t r cs table es) ∧
    ∃ r t cs table es, g.runPass sites DirectorySink.sink (.fresh "out" {}) = (.ok r, t) ∧
      r.artifacts.length = 2 ∧ UniqueNames g sites DirectorySink.sink (.fresh "out" {}) t r cs table es := by
  intro g nested flat other sites
  obtain ⟨memory, directory⟩ := runPass_unique g sites
  obtain ⟨r, t, ran, two⟩ := exists_run_of_any (x := g.runPass sites MemorySink.sink {})
    (p := fun r => decide (r.artifacts.length = 2)) (by decide +kernel)
  obtain ⟨r', t', ran', two'⟩ := exists_run_of_any (x := g.runPass sites DirectorySink.sink (.fresh "out" {}))
    (p := fun r => decide (r.artifacts.length = 2)) (by decide +kernel)
  obtain ⟨cs, table, es, unique⟩ := memory {} t r ran
  obtain ⟨cs', table', es', unique'⟩ := directory _ t' r' ran'
  exact ⟨⟨r, t, cs, table, es, ran, of_decide_eq_true two, unique⟩,
    r', t', cs', table', es', ran', of_decide_eq_true two', unique'⟩

end Generator

end SlotBinding
