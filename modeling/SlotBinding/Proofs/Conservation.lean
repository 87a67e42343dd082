import SlotBinding.Proofs.Writing

/-!
# No binding is lost silently

Every site of a pass ends as a rejection, as a report on a slot that is declared twice, or as a
binding, and every host as an artifact or as a failure: `runPass_conserves`. The step lemma is
`bindingCount_add`: one valid site makes one binding or one report.
-/

namespace SlotBinding

namespace Grouping

def bindingCount (g : Grouping) : Nat := g.models.total (·.bindings.size)

theorem bindingCount_add (policy : DuplicatePolicy) {g : Grouping} (sorted : g.models.Sorted)
    (v : ValidSite) :
    (add policy g v).bindingCount + (add policy g v).diagnostics.length =
      g.bindingCount + g.diagnostics.length + 1 := by
  have sum := SortedMap.total_insert (fun m : HostModel => m.bindings.size) sorted
    v.host.qualifiedName ((ModelSet.modelOf g.models v.host).absorb policy v)
  -- A host without a model starts with an empty one, which counts nothing.
  have before : ((g.models.get? v.host.qualifiedName).map fun m => m.bindings.size).getD 0 =
      (ModelSet.modelOf g.models v.host).bindings.size := by
    unfold ModelSet.modelOf
    cases g.models.get? v.host.qualifiedName <;> rfl
  rw [before, HostModel.size_absorb] at sum
  simp only [bindingCount, models_add, diagnostics_add, List.length_append, List.length_map]
  cases bound : (ModelSet.modelOf g.models v.host).bindings.get? v.slot with
  | none =>
    simp only [bound, Option.isSome_none, Bool.false_eq_true, if_false] at sum
    simp only [Option.toList_none, List.length_nil]
    omega
  | some f =>
    simp only [bound, Option.isSome_some, if_true] at sum
    simp only [Option.toList_some, List.length_singleton]
    omega

theorem bindingCount_foldl_add (policy : DuplicatePolicy) (vs : List ValidSite) {g : Grouping}
    (sorted : g.models.Sorted) :
    (vs.foldl (add policy) g).bindingCount + (vs.foldl (add policy) g).diagnostics.length =
      g.bindingCount + g.diagnostics.length + vs.length := by
  induction vs generalizing g with
  | nil => rfl
  | cons v rest ih =>
    have step := bindingCount_add policy sorted v
    have run := ih (g := add policy g v) (sorted_foldl_add policy [v] sorted)
    rw [List.foldl_cons, run, List.length_cons]
    omega

theorem bindingCount_ofSites (policy : DuplicatePolicy) (vs : List ValidSite) :
    (ofSites policy vs).bindingCount + (ofSites policy vs).diagnostics.length = vs.length := by
  have run := bindingCount_foldl_add policy vs (g := {}) SortedMap.sorted_empty
  have empty : bindingCount {} + ({} : Grouping).diagnostics.length = 0 := rfl
  rw [ofSites, run, empty, Nat.zero_add]

theorem kind_duplicate (policy : DuplicatePolicy) (v : ValidSite) (before : BoundField) :
    (duplicate policy v before).kind = .duplicateSlot := by
  cases policy <;> rfl

theorem kind_of_mem_foldl_add (policy : DuplicatePolicy) (vs : List ValidSite) {g : Grouping}
    (kinds : ∀ d ∈ g.diagnostics, d.kind = .duplicateSlot) :
    ∀ d ∈ (vs.foldl (add policy) g).diagnostics, d.kind = .duplicateSlot := by
  induction vs generalizing g with
  | nil => exact kinds
  | cons v rest ih =>
    apply ih
    intro d member
    rw [diagnostics_add] at member
    rcases List.mem_append.mp member with old | new
    · exact kinds d old
    · obtain ⟨before, _, rfl⟩ := List.mem_map.mp new
      exact kind_duplicate policy v before

/-- The field of a valid site is bound, or a report names it as one of two fields of its slot. -/
def Accounts (policy : DuplicatePolicy) (g : Grouping) (v : ValidSite) : Prop :=
  (∃ m, g.models.get? v.host.qualifiedName = some m ∧ m.bindings.get? v.slot = some v.field) ∨
  ∃ w before, duplicate policy w before ∈ g.diagnostics ∧
    w.host.qualifiedName = v.host.qualifiedName ∧ w.slot = v.slot ∧ (w = v ∨ before = v.field)

theorem accounts_add_self (policy : DuplicatePolicy) (g : Grouping) (v : ValidSite) :
    Accounts policy (add policy g v) v := by
  have model : (add policy g v).models.get? v.host.qualifiedName =
      some ((ModelSet.modelOf g.models v.host).absorb policy v) := by
    rw [models_add, SortedMap.get?_insert_self]
  cases bound : (ModelSet.modelOf g.models v.host).bindings.get? v.slot with
  | none =>
    refine Or.inl ⟨_, model, ?_⟩
    rw [HostModel.absorb_of_none bound]
    exact InsertionMap.get?_insert_self _ _ _
  | some before =>
    refine Or.inr ⟨v, before, ?_, rfl, rfl, Or.inl rfl⟩
    simp [diagnostics_add, bound]

theorem accounts_add {policy : DuplicatePolicy} {g : Grouping} {v : ValidSite}
    (h : Accounts policy g v) (w : ValidSite) : Accounts policy (add policy g w) v := by
  rcases h with ⟨m, found, bound⟩ | ⟨u, before, reported, rest⟩
  · by_cases host : v.host.qualifiedName = w.host.qualifiedName
    · have model : ModelSet.modelOf g.models w.host = m := by
        rw [ModelSet.modelOf, ← host, found]
        rfl
      by_cases slot : v.slot = w.slot
      · -- The slot is declared again: the report names the field that was bound.
        refine Or.inr ⟨w, v.field, ?_, host.symm, slot.symm, Or.inr rfl⟩
        simp [diagnostics_add, model, ← slot, bound]
      · refine Or.inl ⟨m.absorb policy w, ?_, ?_⟩
        · rw [models_add, model, host, SortedMap.get?_insert_self]
        · unfold HostModel.absorb
          split
          · exact bound
          · exact (InsertionMap.get?_insert_of_ne m.bindings slot w.field).trans bound
    · exact Or.inl ⟨m, (get?_add_of_ne policy g host).trans found, bound⟩
  · refine Or.inr ⟨u, before, ?_, rest⟩
    rw [diagnostics_add]
    exact List.mem_append_left _ reported

theorem accounts_foldl_add (policy : DuplicatePolicy) {g : Grouping} {vs : List ValidSite}
    {v : ValidSite} (h : Accounts policy g v ∨ v ∈ vs) :
    Accounts policy (vs.foldl (add policy) g) v := by
  induction vs generalizing g with
  | nil => simpa using h
  | cons w rest ih =>
    apply ih
    rcases h with before | member
    · exact Or.inl (accounts_add before w)
    · rcases List.mem_cons.mp member with rfl | later
      · exact Or.inl (accounts_add_self policy g v)
      · exact Or.inr later

end Grouping

namespace Report

def count (r : Report) (kind : DiagnosticKind) : Nat := r.diagnostics.countP (·.kind = kind)

/-- The number of hosts whose artifact was not written. The failure of the table has no place. -/
def failedHosts (r : Report) : Nat :=
  r.diagnostics.countP fun d => d.kind = .artifactWriteFailure && d.location.isSome

end Report

namespace Site

theorem length_eq (sites : List Site) :
    sites.length =
      (sites.filterMap (·.rejection?)).length + (sites.filterMap (·.valid?)).length := by
  induction sites with
  | nil => rfl
  | cons site rest ih =>
    cases outcome : site.validate with
    | ok v => simp [rejection?, valid?, outcome, Except.toOption, ih]; omega
    | error r => simp [rejection?, valid?, outcome, Except.toOption, ih]; omega

theorem kind_of_rejection? {site : Site} {d : Diagnostic} (h : site.rejection? = some d) :
    d.kind = .invalidSite := by
  unfold rejection? at h
  split at h
  · cases h
  · cases h
    rfl

theorem rejection?_or_valid? (site : Site) :
    (∃ d, site.rejection? = some d) ∨ ∃ v, site.valid? = some v := by
  cases outcome : site.validate with
  | ok v => exact Or.inr ⟨v, by simp [valid?, outcome, Except.toOption]⟩
  | error r => exact Or.inl ⟨r.diagnostic site.location, by simp [rejection?, outcome]⟩

end Site

namespace Generator

variable {σ : Type u} {g : Generator} {k : Sink σ} {sites : List Site} {s t : σ}

theorem length_creations (cs : List Creation) :
    cs.length = (cs.filter (·.isWritten)).length + (cs.filterMap (·.failure?)).length := by
  induction cs with
  | nil => rfl
  | cons c rest ih =>
    cases answer : c.answer with
    | none => simp [Creation.isWritten, Creation.failure?, answer, ih]; omega
    | some e => simp [Creation.isWritten, Creation.failure?, answer, ih]; omega

/-! ### The four groups of diagnostics -/

theorem countP_of_forall {α : Type u} {f : α → Bool} {b : Bool} {ds : List α}
    (same : ∀ d ∈ ds, f d = b) : ds.countP f = if b then ds.length else 0 := by
  cases b with
  | true => exact List.countP_eq_length.mpr same
  | false => exact List.countP_eq_zero.mpr fun d member => by simp [same d member]

theorem kind_of_mem_rejections {d : Diagnostic} (member : d ∈ sites.filterMap (·.rejection?)) :
    d.kind = .invalidSite := by
  obtain ⟨site, _, rejected⟩ := List.mem_filterMap.mp member
  exact Site.kind_of_rejection? rejected

theorem kind_of_mem_group {d : Diagnostic} (member : d ∈ (g.group sites).diagnostics) :
    d.kind = .duplicateSlot :=
  Grouping.kind_of_mem_foldl_add g.config.duplicateSlots _ (by simp) d member

theorem of_mem_failures {cs : List Creation} {d : Diagnostic}
    (member : d ∈ cs.filterMap (·.failure?)) :
    d.kind = .artifactWriteFailure ∧ d.location.isSome := by
  obtain ⟨c, _, failed⟩ := List.mem_filterMap.mp member
  obtain ⟨e, _, rfl⟩ := Option.map_eq_some_iff.mp failed
  exact ⟨rfl, rfl⟩

theorem of_mem_tableFailure {answer : Option ArtifactError} {d : Diagnostic}
    (member : d ∈ (answer.map tableFailure).toList) :
    d.kind = .artifactWriteFailure ∧ d.location = none := by
  obtain ⟨e, _, rfl⟩ := Option.map_eq_some_iff.mp (Option.mem_toList.mp member)
  exact ⟨rfl, rfl⟩

namespace PassTrace

variable (p : PassTrace g sites k s t)

theorem countP_report (f : Diagnostic → Bool) :
    p.report.diagnostics.countP f =
      (sites.filterMap (·.rejection?)).countP f + (g.group sites).diagnostics.countP f +
        (p.creations.filterMap (·.failure?)).countP f +
        (p.tableAnswer.map tableFailure).toList.countP f := by
  rw [diagnostics_report, early, List.countP_append, List.countP_append, List.countP_append]

theorem count_invalidSite :
    p.report.count .invalidSite = (sites.filterMap (·.rejection?)).length := by
  rw [Report.count, countP_report,
    countP_of_forall (b := true) fun d member => by simp [kind_of_mem_rejections member],
    countP_of_forall (b := false) fun d member => by simp [kind_of_mem_group member],
    countP_of_forall (b := false) fun d member => by simp [(of_mem_failures member).1],
    countP_of_forall (b := false) fun d member => by simp [(of_mem_tableFailure member).1]]
  rfl

theorem count_duplicateSlot :
    p.report.count .duplicateSlot = (g.group sites).diagnostics.length := by
  rw [Report.count, countP_report,
    countP_of_forall (b := false) fun d member => by simp [kind_of_mem_rejections member],
    countP_of_forall (b := true) fun d member => by simp [kind_of_mem_group member],
    countP_of_forall (b := false) fun d member => by simp [(of_mem_failures member).1],
    countP_of_forall (b := false) fun d member => by simp [(of_mem_tableFailure member).1]]
  simp

theorem failedHosts_report :
    p.report.failedHosts = (p.creations.filterMap (·.failure?)).length := by
  rw [Report.failedHosts, countP_report,
    countP_of_forall (b := false) fun d member => by simp [kind_of_mem_rejections member],
    countP_of_forall (b := false) fun d member => by simp [kind_of_mem_group member],
    countP_of_forall (b := true) fun d member => by simp [of_mem_failures member],
    countP_of_forall (b := false) fun d member => by simp [of_mem_tableFailure member]]
  simp

theorem written_or_failed {m : HostModel} (member : m ∈ (g.group sites).models.values) :
    (∃ file, m.artifactPath = .ok file ∧ ⟨m.qualifiedName, m.binderName, file⟩ ∈ p.report.artifacts) ∨
      ∃ e, hostFailure m e ∈ p.report.diagnostics := by
  rw [← p.models] at member
  obtain ⟨c, asked, rfl⟩ := List.mem_map.mp member
  cases answer : c.answer with
  | none => exact Or.inl ⟨c.file, p.file_of_mem asked, p.recorded_of_answer asked answer⟩
  | some e => exact Or.inr ⟨e, p.reported_of_answer asked answer⟩

end PassTrace

/-- The field is assigned by the binder of its host, which was written or whose failure was reported. -/
def Assigns (g : Generator) (sites : List Site) (r : Report) (v : ValidSite) : Prop :=
  ∃ m ∈ (g.group sites).models.values, m.qualifiedName = v.host.qualifiedName ∧
    m.bindings.get? v.slot = some v.field ∧
    ((∃ file, m.artifactPath = .ok file ∧ ⟨m.qualifiedName, m.binderName, file⟩ ∈ r.artifacts) ∨
      ∃ e, hostFailure m e ∈ r.diagnostics)

/-- A report on a slot of the host names the field as the earlier or the later one. -/
def NamesDuplicate (g : Generator) (r : Report) (v : ValidSite) : Prop :=
  ∃ w before, Grouping.duplicate g.config.duplicateSlots w before ∈ r.diagnostics ∧
    w.host.qualifiedName = v.host.qualifiedName ∧ w.slot = v.slot ∧ (w = v ∨ before = v.field)

/-- Sites are rejections, duplicates and bindings; hosts are artifacts and failures; and no single site
goes unnamed. -/
theorem runPass_conserves {r : Report} (h : g.runPass sites k s = (.ok r, t)) :
    sites.length = r.count .invalidSite + r.count .duplicateSlot + (g.group sites).bindingCount ∧
    (g.group sites).models.size = r.artifacts.length + r.failedHosts ∧
    ∀ site ∈ sites, (∃ d ∈ r.diagnostics, site.rejection? = some d) ∨
      ∃ v, site.valid? = some v ∧ (Assigns g sites r v ∨ NamesDuplicate g r v) := by
  obtain ⟨p, rfl⟩ := runPass_ok h
  refine ⟨?_, ?_, ?_⟩
  · have grouped := Grouping.bindingCount_ofSites g.config.duplicateSlots (sites.filterMap (·.valid?))
    have total := Site.length_eq sites
    rw [p.count_invalidSite, p.count_duplicateSlot]
    simp only [group] at grouped ⊢
    omega
  · have models : (g.group sites).models.size = p.creations.length := by
      have lengths := congrArg List.length p.models
      simpa [SortedMap.values, SortedMap.size] using lengths.symm
    rw [models, length_creations, p.artifacts_report, List.length_map, p.failedHosts_report]
  · intro site member
    rcases site.rejection?_or_valid? with ⟨d, rejected⟩ | ⟨v, valid⟩
    · refine Or.inl ⟨d, ?_, rejected⟩
      rw [p.diagnostics_report]
      refine List.mem_append_left _ (List.mem_append_left _ (List.mem_append_left _ ?_))
      exact List.mem_filterMap.mpr ⟨site, member, rejected⟩
    · refine Or.inr ⟨v, valid, ?_⟩
      have among : v ∈ sites.filterMap (·.valid?) := List.mem_filterMap.mpr ⟨site, member, valid⟩
      have fate := Grouping.accounts_foldl_add g.config.duplicateSlots (g := {}) (Or.inr among)
      rcases fate with ⟨m, found, bound⟩ | ⟨w, before, reported, rest⟩
      · obtain ⟨_, _, _, _, name, _⟩ := Grouping.header_of_get? found
        have inside : m ∈ (g.group sites).models.values := Grouping.mem_values_of_get? found
        exact Or.inl ⟨m, inside, name, bound, p.written_or_failed inside⟩
      · refine Or.inr ⟨w, before, ?_, rest⟩
        rw [p.diagnostics_report]
        exact List.mem_append_left _ (List.mem_append_left _ (List.mem_append_right _ reported))

/-- Four sites make one duplicate, one rejection and two bindings, one of them in a binder that the
sink refuses. -/
theorem runPass_conserves_refused :
    let g : Generator := { config := .ofCrate "app", renderer := { runtime := ":: viewbind" } }
    let home := Host.visible "app" [] "Home"
    let other := Host.visible "app" [] "Other"
    let sites := [home.site 1 "title", home.site 1 "action", home.site 2 "hidden" .private,
      other.site 1 "title"]
    let k := MemorySink.sink.refusing ["viewbind/app__Other__Bind.rs"] (.other "disk full")
    ∃ r t, g.runPass sites k {} = (.ok r, t) ∧
      (g.group sites).bindingCount = 2 ∧ (g.group sites).models.size = 2 ∧
      sites.length = r.count .invalidSite + r.count .duplicateSlot + (g.group sites).bindingCount ∧
      (g.group sites).models.size = r.artifacts.length + r.failedHosts ∧
      ∀ site ∈ sites, (∃ d ∈ r.diagnostics, site.rejection? = some d) ∨
        ∃ v, site.valid? = some v ∧ (Assigns g sites r v ∨ NamesDuplicate g r v) := by
  intro g home other sites k
  have ok : (g.runPass sites k {}).1.isOk = true := by decide +kernel
  obtain ⟨r, t, run⟩ := exists_run_of_isOk ok
  exact ⟨r, t, run, by decide +kernel, by decide +kernel, runPass_conserves run⟩

end Generator

end SlotBinding
