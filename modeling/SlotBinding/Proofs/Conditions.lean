import SlotBinding.Proofs.FieldDeclaration
import SlotBinding.Proofs.Writing

/-!
# Conditions on generated source

A binder stands under the conditions of the first declaration of its host, and it assigns fields of all
declarations of that name. `runPass_conditions` says which declarations these are and what the conditions
say about each of them.
-/

namespace SlotBinding

open Syntax (Attribute)
open Files (Path Tree)

def Meets (truth : String → Prop) (as : List Attribute) : Prop := ∀ a ∈ as, truth a.text

/-- The text is the source of the binder, all parts of which stand under the conditions of the model. -/
def IsBinderText (g : Generator) (m : HostModel) (text : String) : Prop :=
  ∃ ident path, m.binderIdent = .ok ident ∧ m.typePath = .ok path ∧
    text = phrases (Renderer.declaration m ident ++ Renderer.nameConstant m ident ++
      g.renderer.contract m ident path)

theorem isBinderText_of_binder {g : Generator} {m : HostModel} {text : String}
    (made : g.renderer.binder m = .ok text) : IsBinderText g m text := by
  obtain ⟨ident, identOk, made⟩ := bind_eq_ok made
  obtain ⟨path, pathOk, made⟩ := bind_eq_ok made
  exact ⟨ident, path, identOk, pathOk, (Except.ok.inj made).symm⟩

namespace Generator

variable {g : Generator} {t : Tree} {root : Path} {crateName : String} {sites : List Site}

def sitesOf (sites : List Site) (q : String) : List ValidSite := sitesNamed q (sites.filterMap (·.valid?))

/-- The site that a slot of a host is bound by. -/
def Binds (g : Generator) (sites : List Site) (q : String) (slot : Int32) (v : ValidSite) : Prop :=
  HostModel.origin? g.config.duplicateSlots slot (sitesOf sites q) = some v

/-- Where the conditions on the artifact of a host hold, so do all conditions on the fields that it
assigns. -/
def ConditionsSuffice (g : Generator) (t : Tree) (root : Path) (crateName : String)
    (sites : List Site) : Prop :=
  ∀ m ∈ (g.group sites).models.values, ∀ slot v (d : FieldDeclaration t root),
    Binds g sites m.qualifiedName slot v → d.Gives (Scan.pathCrateName crateName) v →
    ∀ truth, (∀ text ∈ Renderer.conditions m, truth text) → Meets truth d.conditions

theorem mem_of_binds {q : String} {slot : Int32} {v : ValidSite} (binds : Binds g sites q slot v) :
    v ∈ sitesOf sites q ∧ v.slot = slot :=
  HostModel.mem_of_origin? binds

theorem exists_binds {m : HostModel} (member : m ∈ (g.group sites).models.values) {slot : Int32}
    {f : BoundField} (bound : (slot, f) ∈ m.bindings.toList) :
    ∃ v, Binds g sites m.qualifiedName slot v ∧ v.field = f := by
  have found := Grouping.get?_qualifiedName member
  obtain ⟨_, _, _, _, _, distinct⟩ := Grouping.header_of_get? found
  have held := (InsertionMap.mem_toList_iff distinct).mp bound
  rw [Grouping.get?_bindings found] at held
  exact Option.map_eq_some_iff.mp held

theorem exists_first {levels : Nat} {out : ScanOutput}
    (scanned : scanCrate levels t crateName root = some out) {m : HostModel}
    (member : m ∈ (g.group out.sites).models.values) :
    ∃ (v : ValidSite) (first : FieldDeclaration t root),
      (sitesOf out.sites m.qualifiedName).head? = some v ∧
      first.Gives (Scan.pathCrateName crateName) v ∧
      Renderer.conditions m = first.hostConditions.map (·.text) := by
  obtain ⟨v, rest, named, header, _, _⟩ :=
    Grouping.header_of_get? (Grouping.get?_qualifiedName member)
  have among : v ∈ sitesNamed m.qualifiedName (out.sites.filterMap (·.valid?)) := by simp [named]
  obtain ⟨first, gives⟩ := exists_fieldDeclaration scanned (List.mem_filter.mp among).1
  refine ⟨v, first, by rw [sitesOf, named, List.head?_cons], gives, ?_⟩
  have cfg : m.cfg = v.host.cfg := congrArg HostModel.cfg header
  rw [Renderer.conditions, cfg, FieldDeclaration.cfg_of_gives gives]

theorem meets_of_among {truth : String → Prop} {as : List Attribute} {texts : List String}
    (among : ∀ a ∈ as, a.text ∈ texts) (holds : ∀ text ∈ texts, truth text) : Meets truth as :=
  fun a member => holds a.text (among a member)

theorem meets_append {truth : String → Prop} {as bs : List Attribute} (front : Meets truth as)
    (behind : Meets truth bs) : Meets truth (as ++ bs) := by
  intro a member
  rcases List.mem_append.mp member with here | there
  · exact front a here
  · exact behind a there

/-- Each binder of a pass stands under the conditions of the first declaration of its host. Each field
that it assigns is a marked field of the crate; if the conditions around that field are among those of
the first declaration, they hold where those of the binder do, and so do the field's own. -/
theorem runPass_conditions {σ : Type u} {k : Sink σ} {levels : Nat} {out : ScanOutput} {r : Report}
    {s s' : σ} (scanned : scanCrate levels t crateName root = some out)
    (run : g.runPass out.sites k s = (.ok r, s')) :
    ∀ a ∈ r.artifacts, ∃ m ∈ (g.group out.sites).models.values, ∃ text,
      m.qualifiedName = a.host ∧ g.artifact m = .ok (text, a.file) ∧ IsBinderText g m text ∧
      ∃ (v : ValidSite) (first : FieldDeclaration t root),
        (sitesOf out.sites a.host).head? = some v ∧ first.Gives (Scan.pathCrateName crateName) v ∧
        Renderer.conditions m = first.hostConditions.map (·.text) ∧
        ∀ slot f, (slot, f) ∈ m.bindings.toList → ∃ w, Binds g out.sites a.host slot w ∧ w.field = f ∧
          (∃ d : FieldDeclaration t root, d.Gives (Scan.pathCrateName crateName) w) ∧
          ∀ d : FieldDeclaration t root, d.Gives (Scan.pathCrateName crateName) w →
            (∀ a ∈ d.hostConditions, a.text ∈ first.hostConditions.map (·.text)) →
            ∀ truth, (∀ text ∈ Renderer.conditions m, truth text) →
              Meets truth d.hostConditions ∧
              ((∀ a ∈ cfgAttributes d.field.attributes, a.text ∈ first.hostConditions.map (·.text)) →
                Meets truth d.conditions) := by
  obtain ⟨p, rfl⟩ := runPass_ok run
  intro a recorded
  rw [p.artifacts_report] at recorded
  obtain ⟨c, written, rfl⟩ := List.mem_map.mp recorded
  have asked : c ∈ p.creations := (List.mem_filter.mp written).1
  have made := creates_made p.creates c asked
  have member := p.mem_models asked
  obtain ⟨v, first, head, gives, conditions⟩ := exists_first scanned member
  refine ⟨c.model, member, c.text, rfl, made, isBinderText_of_binder (artifact_ok made).1, v, first, head,
    gives, conditions, ?_⟩
  intro slot f bound
  obtain ⟨w, binds, field⟩ := exists_binds member bound
  have valid : w ∈ out.sites.filterMap (·.valid?) := (List.mem_filter.mp (mem_of_binds binds).1).1
  refine ⟨w, binds, field, exists_fieldDeclaration scanned valid, ?_⟩
  intro d _ among truth holds
  rw [conditions] at holds
  have host : Meets truth d.hostConditions := meets_of_among among holds
  exact ⟨host, fun own => meets_append host (meets_of_among own holds)⟩

/-- A module in a file of its own carries the conditions of the root file and of its declaration. -/
theorem runPass_conditions_of_file_module :
    let g : Generator := { config := .ofCrate "app", renderer := { runtime := ":: viewbind" } }
    let t := Tree.ofList
      [("src/lib.rs", .file (.text "#![cfg(desktop)] #[cfg(unix)] pub mod screens;")),
        ("src/screens.rs", .file (.text "pub struct Home \x7b #[bind(1)] pub title: Label \x7d"))]
    ∃ out r s, scanCrate 2 t "app" "src/lib.rs" = some out ∧
      g.runPass out.sites MemorySink.sink {} = (.ok r, s) ∧
      ∃ a ∈ r.artifacts, a.host = "app::screens::Home" ∧
        ∃ m ∈ (g.group out.sites).models.values, m.qualifiedName = a.host ∧
          Renderer.conditions m = ["# [cfg (desktop)]", "# [cfg (unix)]"] ∧
          ∃ first : FieldDeclaration t "src/lib.rs",
            Renderer.conditions m = first.hostConditions.map (·.text) := by
  intro g t
  have facts : (scanCrate 2 t "app" "src/lib.rs").any (fun out =>
      ((g.group out.sites).models.values.all fun m =>
        Renderer.conditions m = ["# [cfg (desktop)]", "# [cfg (unix)]"]) &&
      (g.runPass out.sites MemorySink.sink {}).1.toOption.any fun r =>
        r.artifacts.any (·.host = "app::screens::Home")) = true := by
    decide +kernel
  obtain ⟨out, scanned, holds⟩ := (Option.any_eq_true _ _).mp facts
  obtain ⟨gated, ran⟩ := Bool.and_eq_true_iff.mp holds
  obtain ⟨r, s, run, written⟩ := exists_run_of_any ran
  obtain ⟨a, recorded, host⟩ := List.any_eq_true.mp written
  obtain ⟨m, member, _, name, _, _, _, first, _, _, conditions, _⟩ :=
    runPass_conditions scanned run a recorded
  exact ⟨out, r, s, scanned, run, a, recorded, of_decide_eq_true host, m, member, name,
    of_decide_eq_true (List.all_eq_true.mp gated m member), first, conditions⟩

/-! ### Fields under other conditions -/

/-- A slot of the host is bound by a field under a condition that the artifact does not stand under. -/
def Ungated (g : Generator) (t : Tree) (root : Path) (crateName : String) (sites : List Site)
    (m : HostModel) (slot : Int32) (text : String) : Prop :=
  ∃ v, ∃ d : FieldDeclaration t root, Binds g sites m.qualifiedName slot v ∧
    d.Gives (Scan.pathCrateName crateName) v ∧ text ∈ d.conditions.map (·.text) ∧
    text ∉ Renderer.conditions m

theorem not_conditionsSuffice {m : HostModel} (member : m ∈ (g.group sites).models.values)
    {slot : Int32} {text : String} (ungated : Ungated g t root crateName sites m slot text) :
    ¬ConditionsSuffice g t root crateName sites := by
  intro suffice
  obtain ⟨v, d, binds, gives, on, missing⟩ := ungated
  obtain ⟨a, among, rfl⟩ := List.mem_map.mp on
  exact missing (suffice m member slot v d binds gives (· ∈ Renderer.conditions m) (fun _ h => h) a among)

/-- A field under a condition of its own, and a field of a second declaration of the struct under another
condition, are assigned where neither condition holds. -/
theorem conditions_do_not_suffice :
    let g : Generator := { config := .ofCrate "app", renderer := { runtime := ":: viewbind" } }
    let source :=
      "#[cfg(unix)] pub struct Home \x7b #[bind(1)] #[cfg(extra)] pub a: Label \x7d " ++
      "#[cfg(windows)] pub struct Home \x7b #[bind(2)] pub b: Label \x7d"
    let t := Tree.ofList [("src/lib.rs", .file (.text source))]
    ∃ out r s, scanCrate 1 t "app" "src/lib.rs" = some out ∧
      g.runPass out.sites MemorySink.sink {} = (.ok r, s) ∧
      (∃ m ∈ (g.group out.sites).models.values, Renderer.conditions m = ["# [cfg (unix)]"] ∧
        Ungated g t "src/lib.rs" "app" out.sites m 1 "# [cfg (extra)]" ∧
        Ungated g t "src/lib.rs" "app" out.sites m 2 "# [cfg (windows)]") ∧
      ¬ConditionsSuffice g t "src/lib.rs" "app" out.sites := by
  intro g source t
  have facts : (scanCrate 1 t "app" "src/lib.rs").any (fun out =>
      (g.runPass out.sites MemorySink.sink {}).1.isOk &&
      ((g.group out.sites).models.values.any fun m =>
        Renderer.conditions m = ["# [cfg (unix)]"] &&
        (HostModel.origin? .warn 1 (sitesOf out.sites m.qualifiedName)).isSome &&
        (HostModel.origin? .warn 2 (sitesOf out.sites m.qualifiedName)).any fun v =>
          v.host.cfg.map (·.text) = ["# [cfg (windows)]"])) = true := by
    decide +kernel
  have gated : ((t.read "src/lib.rs").toOption.bind fun text =>
      (Grammar.sourceFile text).toOption).all (fun f => f.allFields fun f =>
        f.attributes.all fun a => SlotArgument.ofAttribute a ≠ .id 1 ||
          "# [cfg (extra)]" ∈ (cfgAttributes f.attributes).map (·.text)) = true := by
    decide +kernel
  obtain ⟨out, scanned, holds⟩ := (Option.any_eq_true _ _).mp facts
  obtain ⟨ok, models⟩ := Bool.and_eq_true_iff.mp holds
  obtain ⟨r, s, run⟩ := exists_run_of_isOk ok
  obtain ⟨m, member, checks⟩ := List.any_eq_true.mp models
  simp only [Bool.and_eq_true, decide_eq_true_eq] at checks
  obtain ⟨⟨conditions, first⟩, second⟩ := checks
  have own : Ungated g t "src/lib.rs" "app" out.sites m 1 "# [cfg (extra)]" := by
    obtain ⟨v, binds⟩ := Option.isSome_iff_exists.mp first
    obtain ⟨among, slot⟩ := mem_of_binds (g := g) binds
    obtain ⟨d, gives⟩ := exists_fieldDeclaration scanned (List.mem_filter.mp among).1
    -- The site does not say what stands on its field, but the file does.
    obtain ⟨text, read, parsed⟩ := d.holds
    simp only [read, parsed, Except.toOption, Option.bind_some, Option.all_some] at gated
    have checked := List.all_eq_true.mp (d.check_of_allFields gated) d.mark d.marked
    obtain ⟨_, _, marked⟩ := Site.element_of_valid? gives
    have mark : SlotArgument.ofAttribute d.mark = .id 1 := slot ▸ marked
    have on : "# [cfg (extra)]" ∈ (cfgAttributes d.field.attributes).map (·.text) := by
      simpa [mark] using checked
    refine ⟨v, d, binds, gives, ?_, by simp [conditions]⟩
    rw [FieldDeclaration.conditions, List.map_append]
    exact List.mem_append_right _ on
  have twin : Ungated g t "src/lib.rs" "app" out.sites m 2 "# [cfg (windows)]" := by
    obtain ⟨v, binds, cfg⟩ := (Option.any_eq_true _ _).mp second
    obtain ⟨among, _⟩ := mem_of_binds (g := g) binds
    obtain ⟨d, gives⟩ := exists_fieldDeclaration scanned (List.mem_filter.mp among).1
    refine ⟨v, d, binds, gives, ?_, by simp [conditions]⟩
    rw [FieldDeclaration.conditions, List.map_append, ← FieldDeclaration.cfg_of_gives gives,
      of_decide_eq_true cfg]
    exact List.mem_append_left _ List.mem_cons_self
  exact ⟨out, r, s, scanned, run, ⟨m, member, conditions, own, twin⟩, not_conditionsSuffice member own⟩

end Generator

end SlotBinding
