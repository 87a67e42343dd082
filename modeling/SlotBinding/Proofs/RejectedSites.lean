import Mathlib.Data.List.Forall2
import SlotBinding.Proofs.BinderTable

/-!
# Sites that are rejected

Every phase behind validation reads the valid sites alone. `runPass_drops_rejected`: a pass does what it
does without the rejected sites, to any sink, and reports each of them in front of everything else.
-/

namespace SlotBinding

namespace Site

def isValid (site : Site) : Bool := site.valid?.isSome

/-- The diagnostic is the error about the site, at the site's place and with the reason against it. -/
def RejectedBy (site : Site) (d : Diagnostic) : Prop :=
  ∃ r, site.validate = .error r ∧ d.severity = .error ∧ d.kind = .invalidSite ∧
    d.location = some site.location ∧ d.message = r.message

variable {site : Site} {v : ValidSite} {d : Diagnostic}

theorem rejection?_eq_none_iff : site.rejection? = none ↔ site.isValid = true := by
  cases outcome : site.validate with
  | ok v => simp [rejection?, isValid, valid?, outcome, Except.toOption]
  | error r => simp [rejection?, isValid, valid?, outcome, Except.toOption]

theorem rejectedBy_of_rejection? (rejected : site.rejection? = some d) : site.RejectedBy d := by
  unfold rejection? at rejected
  cases outcome : site.validate with
  | ok v =>
    rw [outcome] at rejected
    cases rejected
  | error r =>
    rw [outcome] at rejected
    obtain rfl := Option.some.inj rejected
    exact ⟨r, outcome, rfl, rfl, rfl, rfl⟩

theorem forall₂_rejections (sites : List Site) :
    List.Forall₂ RejectedBy (sites.filter fun site => !site.isValid) (sites.filterMap (·.rejection?)) := by
  induction sites with
  | nil => exact .nil
  | cons site rest ih =>
    cases rejected : site.rejection? with
    | none =>
      have valid : site.isValid = true := rejection?_eq_none_iff.mp rejected
      simpa [rejected, valid] using ih
    | some d =>
      have invalid : site.isValid = false := by
        apply Bool.eq_false_iff.mpr
        intro valid
        rw [rejection?_eq_none_iff.mpr valid] at rejected
        cases rejected
      have own : site.RejectedBy d := rejectedBy_of_rejection? rejected
      simpa [rejected, invalid] using ⟨own, ih⟩

theorem filterMap_valid?_filter (sites : List Site) :
    (sites.filter (·.isValid)).filterMap (·.valid?) = sites.filterMap (·.valid?) := by
  rw [List.filterMap_filter]
  apply List.filterMap_congr
  intro site _
  cases outcome : site.valid? with
  | none => simp
  | some v => simp [isValid, outcome]

theorem filterMap_rejection?_filter (sites : List Site) :
    (sites.filter (·.isValid)).filterMap (·.rejection?) = [] := by
  apply List.filterMap_eq_nil_iff.mpr
  intro site member
  exact rejection?_eq_none_iff.mpr (List.mem_filter.mp member).2

end Site

def Report.behind (reports : List Diagnostic) (r : Report) : Report :=
  { r with diagnostics := reports ++ r.diagnostics }

namespace Generator

variable {σ : Type u}

theorem group_filter_isValid (g : Generator) (sites : List Site) :
    g.group (sites.filter (·.isValid)) = g.group sites := by
  unfold group
  rw [Site.filterMap_valid?_filter]

theorem reportOf_append (reports before : List Diagnostic) (log : WriteLog)
    (answer : Option ArtifactError) :
    reportOf (reports ++ before) log answer = (reportOf before log answer).behind reports := by
  unfold reportOf Report.behind
  simp only [List.append_assoc]

theorem runPass_filter_isValid (g : Generator) (sites : List Site) (k : Sink σ) (s : σ) :
    g.runPass sites k s =
      ((g.runPass (sites.filter (·.isValid)) k s).1.map (·.behind (sites.filterMap (·.rejection?))),
        (g.runPass (sites.filter (·.isValid)) k s).2) := by
  unfold runPass
  rw [group_filter_isValid, Site.filterMap_rejection?_filter]
  dsimp only
  rw [List.nil_append]
  -- From here on both passes write the same models to the same sink.
  generalize g.writeModels k (g.group sites).models.values s = wrote
  obtain ⟨log | log, middle⟩ := wrote
  · rfl
  · dsimp only
    generalize g.writeTable k log.written middle = asked
    obtain ⟨answer | answer, ended⟩ := asked
    · rfl
    · have front := reportOf_append (sites.filterMap (·.rejection?)) (g.group sites).diagnostics log answer
      simp only [front]
      rfl

/-- A pass and the pass over the valid sites alone ask a sink for the same artifacts, in the same order
and with the same texts, leave it in the same state and record the same artifacts and table. The diagnostics
of the first are one error for each rejected site, in the order of these sites, and then those of the
second. Where a name stops one of the passes, it stops the other. -/
theorem runPass_drops_rejected (g : Generator) (sites : List Site) (k : Sink σ) (s : σ) :
    let valid := sites.filter (·.isValid)
    ∃ reports, List.Forall₂ Site.RejectedBy (sites.filter fun site => !site.isValid) reports ∧
      (g.runPass sites k.noting (s, [])).2.2 = (g.runPass valid k.noting (s, [])).2.2 ∧
      (g.runPass sites k s).2 = (g.runPass valid k s).2 ∧
      (∀ f, (g.runPass sites k s).1 = .error f ↔ (g.runPass valid k s).1 = .error f) ∧
      ∀ r, (g.runPass sites k s).1 = .ok r ↔
        ∃ r', (g.runPass valid k s).1 = .ok r' ∧ r.artifacts = r'.artifacts ∧ r.table = r'.table ∧
          r.sources = r'.sources ∧ r.diagnostics = reports ++ r'.diagnostics := by
  intro valid
  have same := runPass_filter_isValid g sites k s
  have noted := runPass_filter_isValid g sites k.noting (s, [])
  refine ⟨sites.filterMap (·.rejection?), Site.forall₂_rejections sites, ?_, ?_, ?_, ?_⟩
  · rw [noted]
  · rw [same]
  · intro f
    rw [same]
    change Except.map _ (g.runPass valid k s).1 = .error f ↔ _
    cases (g.runPass valid k s).1 with
    | error e => simp [Except.map]
    | ok r' => simp [Except.map]
  · intro r
    rw [same]
    change Except.map _ (g.runPass valid k s).1 = .ok r ↔ _
    cases (g.runPass valid k s).1 with
    | error e => simp [Except.map]
    | ok r' =>
      obtain ⟨artifacts, table, diagnostics, sources⟩ := r
      simp only [Except.map, Except.ok.injEq, Report.behind, Report.mk.injEq]
      constructor
      · rintro ⟨rfl, rfl, rfl, rfl⟩
        exact ⟨r', rfl, rfl, rfl, rfl, rfl⟩
      · rintro ⟨_, rfl, artifacts, table, sources, diagnostics⟩
        exact ⟨artifacts.symm, table.symm, diagnostics.symm, sources.symm⟩

end Generator

end SlotBinding
