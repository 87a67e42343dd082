import Mathlib.Data.List.Nodup
import SlotBinding.Proofs.DuplicateSlots
import SlotBinding.Proofs.InjectionBody
import SlotBinding.Proofs.PathContract

/-!
# How often a field is assigned

Slots are kept apart, fields are not: a field with two marks has two slots. Where nothing is reported on a
host, its binder has one statement for every mark on its fields, so it assigns a field as often as the
field is marked: `runPass_assigns_marks`.
-/

namespace SlotBinding

def Site.isOn (q : String) (site : Site) : Bool :=
  match site.element with
  | .field host _ _ _ => host.qualifiedName = q
  | .other _ _ => false

def Site.marks (q field : String) (site : Site) : Bool :=
  match site.element with
  | .field host member _ _ => host.qualifiedName = q && plainName member.text = field
  | .other _ _ => false

theorem Site.isOn_of_marks {q field : String} {site : Site} (marks : site.marks q field = true) :
    site.isOn q = true := by
  unfold Site.marks at marks
  unfold Site.isOn
  split at marks
  · exact (Bool.and_eq_true_iff.mp marks).1
  · cases marks

namespace Grouping

open HostModel (origin? mem_of_origin?)

variable {policy : DuplicatePolicy} {q : String} {vs : List ValidSite}

theorem slots_of_no_repeats (free : repeats policy (sitesNamed q vs) = []) :
    slotsOf (sitesNamed q vs) = (sitesNamed q vs).map (·.slot) ∧
      ((sitesNamed q vs).map (·.slot)).Nodup := by
  induction vs using List.reverseRecOn with
  | nil => exact ⟨rfl, List.nodup_nil⟩
  | append_singleton vs v ih =>
    rw [sitesNamed_concat] at free ⊢
    by_cases own : v.host.qualifiedName = q
    · subst own
      rw [if_pos rfl, repeats_concat, List.append_eq_nil_iff] at free
      obtain ⟨front, last⟩ := free
      obtain ⟨slots, distinct⟩ := ih front
      have fresh : v.slot ∉ slotsOf (sitesNamed v.host.qualifiedName vs) := by
        rw [mem_slotsOf, ← isSome_origin? policy]
        unfold found? at last
        rw [sitesNamed_sitesNamed] at last
        cases counts : origin? policy v.slot (sitesNamed v.host.qualifiedName vs) with
        | none => simp
        | some w => simp [counts] at last
      rw [if_pos rfl, slotsOf_concat, if_neg fresh, slots, List.map_append, List.map_singleton]
      rw [slots] at fresh
      exact ⟨rfl, List.concat_eq_append ▸ distinct.concat fresh⟩
    · rw [if_neg own] at free ⊢
      exact ih free

theorem origin?_of_nodup {own : List ValidSite} (distinct : (own.map (·.slot)).Nodup) {v : ValidSite}
    (member : v ∈ own) : origin? policy v.slot own = some v := by
  have bound : v.slot ∈ own.map (·.slot) := List.mem_map.mpr ⟨v, member, rfl⟩
  obtain ⟨w, counts⟩ := Option.isSome_iff_exists.mp ((isSome_origin? policy).mpr bound)
  obtain ⟨among, slot⟩ := mem_of_origin? counts
  rw [counts, List.inj_on_of_nodup_map distinct among member slot]

theorem bindingsOf_of_no_repeats (free : repeats policy (sitesNamed q vs) = []) :
    bindingsOf policy (sitesNamed q vs) = (sitesNamed q vs).map fun v => (v.slot, v.field) := by
  obtain ⟨slots, distinct⟩ := slots_of_no_repeats free
  rw [bindingsOf, slots, List.filterMap_map, ← List.filterMap_eq_map]
  refine List.filterMap_congr fun v member => ?_
  rw [Function.comp_apply, origin?_of_nodup distinct member]
  rfl

end Grouping

namespace Generator

open Files (Tree)

variable {σ : Type u} {g : Generator} {k : Sink σ} {sites : List Site} {s t : σ} {r : Report}

/-- The diagnostic is about the host: a rejection of a mark on one of its fields, a report on one of its
slots, or a failure to write its artifact. -/
inductive Concerns (g : Generator) (sites : List Site) (q : String) : Diagnostic → Prop where
  | rejection {site : Site} {d : Diagnostic} (among : site ∈ sites) (own : site.isOn q = true)
      (rejected : site.rejection? = some d) : Concerns g sites q d
  | duplicate {v : ValidSite} {before : BoundField} (own : v.host.qualifiedName = q) :
      Concerns g sites q (Grouping.duplicate g.config.duplicateSlots v before)
  | failure {m : HostModel} {e : ArtifactError} (own : m.qualifiedName = q) :
      Concerns g sites q (hostFailure m e)

def Silent (g : Generator) (sites : List Site) (r : Report) (q : String) : Prop :=
  ∀ d ∈ r.diagnostics, ¬Concerns g sites q d

theorem valid_of_silent {q : String} (reported : sites.filterMap (·.rejection?) ⊆ r.diagnostics)
    (silent : Silent g sites r q) {site : Site} (among : site ∈ sites) (own : site.isOn q = true) :
    ∃ v, site.valid? = some v := by
  cases validated : site.validate with
  | ok v => exact ⟨v, by rw [Site.valid?, validated]; rfl⟩
  | error reason =>
    have rejected : site.rejection? = some (reason.diagnostic site.location) := by
      rw [Site.rejection?, validated]
    exact absurd (.rejection among own rejected)
      (silent _ (reported (List.mem_filterMap.mpr ⟨site, among, rejected⟩)))

theorem no_repeats_of_silent {q : String} (reported : (g.group sites).diagnostics ⊆ r.diagnostics)
    (silent : Silent g sites r q) :
    Grouping.repeats g.config.duplicateSlots (sitesOf sites q) = [] := by
  rw [sitesOf, ← Grouping.filter_repeats, List.filter_eq_nil_iff]
  intro e repeated own
  refine silent (Grouping.duplicate g.config.duplicateSlots e.1 e.2) (reported ?_)
    (.duplicate (of_decide_eq_true own))
  rw [group, Grouping.diagnostics_ofSites]
  exact List.mem_map.mpr ⟨e, repeated, rfl⟩

/-- The valid sites on a field of a host are the marks on it, if all of these are valid. -/
theorem countP_sitesOf {q field : String}
    (valid : ∀ site ∈ sites, site.marks q field = true → ∃ v, site.valid? = some v) :
    (sitesOf sites q).countP (fun v => plainName v.field.name = field) = sites.countP (·.marks q field) := by
  rw [sitesOf, sitesNamed, List.countP_filter, List.countP_filterMap]
  refine List.countP_congr fun site among => ?_
  cases gives : site.valid? with
  | none =>
    constructor
    · rintro ⟨⟩
    · intro marks
      obtain ⟨v, some⟩ := valid site among marks
      rw [gives] at some
      cases some
  | some v =>
    obtain ⟨access, element, _⟩ := Site.element_of_valid? gives
    rw [Site.marks, element, Option.map_some, Option.getD_some]
    dsimp only
    rw [Bool.and_comm]
    rfl

theorem toList_bindings {m : HostModel} (member : m ∈ (g.group sites).models.values)
    (free : Grouping.repeats g.config.duplicateSlots (sitesOf sites m.qualifiedName) = []) :
    m.bindings.toList = (sitesOf sites m.qualifiedName).map fun v => (v.slot, v.field) := by
  have found := Grouping.get?_qualifiedName member
  rw [Grouping.get?_ofSites_eq] at found
  obtain ⟨v, _, model⟩ := Option.map_eq_some_iff.mp found
  have entries := congrArg (fun m : HostModel => m.bindings.toList) model
  exact entries.symm.trans (Grouping.bindingsOf_of_no_repeats free)

theorem countP_targets {m : HostModel} {q field : String}
    (bindings : m.bindings.toList = (sitesOf sites q).map fun v => (v.slot, v.field))
    (valid : ∀ site ∈ sites, site.marks q field = true → ∃ v, site.valid? = some v) :
    (m.statements.filterMap (·.target?)).countP (fun name => plainName name = field) =
      sites.countP (·.marks q field) := by
  rw [HostModel.targets_statements, bindings, List.map_map, List.countP_map, ← countP_sitesOf valid]
  rfl

/-- Where a pass reports nothing on a host whose artifact it writes, the artifact has one statement for
each mark on a field of the host, in the order of the marks, and assigns a field as often as it is
marked. -/
theorem runPass_assigns_marks (run : g.runPass sites k s = (.ok r, t)) :
    ∀ a ∈ r.artifacts, Silent g sites r a.host →
      ∃ m ∈ (g.group sites).models.values, ∃ text, m.qualifiedName = a.host ∧
        g.artifact m = .ok (text, a.file) ∧ NamesBinder g m text m.binderName ∧
        (∀ typePath, SpellsBody g.renderer typePath m.statements (g.renderer.body m typePath)) ∧
        m.bindings.toList = (sitesOf sites a.host).map (fun v => (v.slot, v.field)) ∧
        (∀ site ∈ sites, ∀ field, site.marks a.host field = true →
          ∃ name ∈ m.statements.filterMap (·.target?), plainName name = field) ∧
        ∀ field, (m.statements.filterMap (·.target?)).countP (fun name => plainName name = field) =
          sites.countP (·.marks a.host field) := by
  obtain ⟨p, rfl⟩ := runPass_ok run
  intro a recorded silent
  obtain ⟨c, asked, _, rfl⟩ := p.exists_creation recorded
  have made := creates_made p.creates c asked
  have member := p.mem_models asked
  have reported : p.early ⊆ p.report.diagnostics := by
    rw [p.diagnostics_report, List.append_assoc]
    exact List.subset_append_left _ _
  obtain ⟨rejections, duplicates⟩ := List.append_subset.mp reported
  have bindings := toList_bindings member (no_repeats_of_silent duplicates silent)
  have counts : ∀ field, (c.model.statements.filterMap (·.target?)).countP
      (fun name => plainName name = field) = sites.countP (·.marks c.model.qualifiedName field) :=
    fun field => countP_targets bindings fun site among marks =>
      valid_of_silent rejections silent among (Site.isOn_of_marks marks)
  refine ⟨c.model, member, c.text, rfl, made, namesBinder_of_binder (artifact_ok made).1,
    spellsBody_body g.renderer c.model, bindings, ?_, counts⟩
  intro site among field marks
  have marked : 0 < sites.countP (·.marks c.model.qualifiedName field) :=
    List.countP_pos_iff.mpr ⟨site, among, marks⟩
  rw [← counts, List.countP_pos_iff] at marked
  obtain ⟨name, target, same⟩ := marked
  exact ⟨name, target, of_decide_eq_true same⟩

theorem silent_of_no_diagnostics (none : r.diagnostics = []) (q : String) : Silent g sites r q := by
  intro d reported
  rw [none] at reported
  cases reported

/-- Two structs of a crate, of which one has a private field with a mark. -/
theorem runPass_assigns_marks_of_two :
    let g : Generator := { config := .ofCrate "app", renderer := { runtime := ":: viewbind" } }
    let home := Host.visible "app" [] "Home"
    let menu := Host.visible "app" ["ui"] "Menu"
    let sites := [home.site 2 "title", menu.site 1 "title", home.site 1 "hint", menu.site 2 "hidden" .private]
    ∃ r s, g.runPass sites MemorySink.sink {} = (.ok r, s) ∧ r.diagnostics.length = 1 ∧
      ∃ a ∈ r.artifacts, a.host = "app::Home" ∧ Silent g sites r a.host ∧
        ∃ m ∈ (g.group sites).models.values, m.qualifiedName = a.host ∧
          m.bindings.toList.map (fun b => (b.1, b.2.name)) = [(2, "title"), (1, "hint")] ∧
          (m.statements.filterMap (·.target?)).countP (fun name => plainName name = "title") = 1 := by
  intro g home menu sites
  obtain ⟨r, s, run, facts⟩ := exists_run_of_any (x := g.runPass sites MemorySink.sink {})
    (p := fun r => decide (∃ a ∈ r.artifacts, a.host = "app::Home") &&
      decide (r.diagnostics.length = 1) &&
      decide (∀ d ∈ r.diagnostics, d.kind = .invalidSite))
    (by decide +kernel)
  simp only [Bool.and_eq_true, decide_eq_true_eq] at facts
  obtain ⟨⟨⟨a, recorded, host⟩, one⟩, kinds⟩ := facts
  have valid : sites.all (fun site => !site.isOn "app::Home" || site.rejection?.isNone) = true := by
    decide +kernel
  have silent : Silent g sites r a.host := by
    rw [host]
    intro d reported concerns
    have kind := kinds d reported
    cases concerns with
    | rejection among own rejected =>
      have checked := List.all_eq_true.mp valid _ among
      rw [own, rejected] at checked
      cases checked
    | duplicate own =>
      rw [(Grouping.reportsRepeat_duplicate _ _ _).kind] at kind
      cases kind
    | failure own => cases kind
  obtain ⟨m, member, _, name, _, _, _, bindings, _, counts⟩ := runPass_assigns_marks run a recorded silent
  refine ⟨r, s, run, one, a, recorded, host, silent, m, member, name, ?_, ?_⟩
  · rw [bindings, host]
    decide +kernel
  · rw [counts, host]
    decide +kernel

/-! ### Two marks on one field -/

/-- Where nothing is reported on a host, its artifact assigns no field twice, and every marked field. -/
def AssignsOnce (g : Generator) (sites : List Site) (r : Report) : Prop :=
  ∀ a ∈ r.artifacts, Silent g sites r a.host → ∀ m ∈ (g.group sites).models.values,
    m.qualifiedName = a.host → (m.statements.filterMap (·.target?)).Nodup ∧
      ∀ site ∈ sites, ∀ field, site.marks a.host field = true →
        ∃ name ∈ m.statements.filterMap (·.target?), plainName name = field

/-- A field with two marks is assigned from both slots, and nothing is reported. -/
theorem field_assigned_twice :
    let g : Generator := { config := .ofCrate "app", renderer := { runtime := ":: viewbind" } }
    let t := Tree.ofList [("src/lib.rs", .file (.text
      "pub struct Home \x7b #[bind(1)] #[bind(2)] pub x: Label \x7d"))]
    ∃ out r s, scanCrate 1 t "app" "src/lib.rs" = some out ∧
      g.runPass out.sites MemorySink.sink {} = (.ok r, s) ∧ r.diagnostics = [] ∧
      (∃ a ∈ r.artifacts, ∃ m ∈ (g.group out.sites).models.values, m.qualifiedName = a.host ∧
        m.statements.filterMap (·.target?) = ["x", "x"]) ∧
      ¬AssignsOnce g out.sites r := by
  intro g t
  have facts : (scanCrate 1 t "app" "src/lib.rs").any (fun out =>
      (g.runPass out.sites MemorySink.sink {}).1.toOption.any fun r =>
        decide (r.diagnostics = []) &&
          decide (∃ a ∈ r.artifacts, ∃ m ∈ (g.group out.sites).models.values,
            m.qualifiedName = a.host ∧ m.statements.filterMap (·.target?) = ["x", "x"])) = true := by
    decide +kernel
  obtain ⟨out, scanned, ran⟩ := (Option.any_eq_true _ _).mp facts
  obtain ⟨r, s, run, holds⟩ := exists_run_of_any ran
  simp only [Bool.and_eq_true, decide_eq_true_eq] at holds
  obtain ⟨silent, a, recorded, m, member, name, targets⟩ := holds
  refine ⟨out, r, s, scanned, run, silent, ⟨a, recorded, m, member, name, targets⟩, fun once => ?_⟩
  obtain ⟨distinct, _⟩ := once a recorded (silent_of_no_diagnostics silent _) m member name
  rw [targets] at distinct
  exact absurd distinct (by decide)

end Generator

end SlotBinding
