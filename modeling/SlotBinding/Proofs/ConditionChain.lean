import SlotBinding.Proofs.NameFaults
import SlotBinding.Proofs.PathContract
import SlotBinding.Proofs.UniqueNames

/-!
# The chain of conditions on a host

The conditions on a struct are those of the root file, of each module around it with its file, and its own.
`conditions_reach_source`: a scan records exactly these in this order, and they stand in front of the struct of
the binder, of its two implementations and of its two mentions in the table, and in front of nothing else.
-/

namespace SlotBinding

open Syntax (Attribute)
open Files (Path Tree)
open HostModel (CanLead)

def Syntax.Attribute.outerForm (a : Attribute) : String := "# [" ++ Token.textAll a.inside ++ "]"

theorem Syntax.Attribute.text_eq (a : Attribute) : a.text = a.outerForm := by
  apply String.toList_inj.mp
  simp [Attribute.text, tokens, outerForm, Token.ofGroup, Token.textAll, Token.text, Token.gapAfter,
    Token.openText, Token.closeText]

namespace Renderer

/-- The parts of a source, each behind the same conditions. -/
def behind (conditions : List String) (parts : List (List String)) : String :=
  phrases (parts.flatMap (conditions ++ ·))

/-- The struct of a binder with its documentation, and its two implementations. -/
def BareParts (r : Renderer) (m : HostModel) (parts : List (List String)) : Prop :=
  ∃ ident docs name methods, m.binderIdent = .ok ident ∧
    (∀ line ∈ docs, ∃ content, line = docLine content) ∧
    parts =
      [docs ++ ["# [doc (hidden)] # [allow (non_camel_case_types)] pub struct", ident, ";"],
       ["impl", ident, "\x7b pub const NAME : & str =", name, "; \x7d"],
       ["impl", r.runtime, ":: Binder for", ident, "\x7b"] ++ methods ++ ["\x7d"]]

variable {r : Renderer} {m : HostModel}

/-- The conditions of a model come into the source of its binder in front of three parts, which do not depend
on them. -/
theorem exists_parts {ident path : String} (identified : m.binderIdent = .ok ident)
    (typed : m.typePath = .ok path) :
    ∃ parts, BareParts r m parts ∧
      ∀ cfg, r.binder { m with cfg } = .ok (behind (cfg.map (·.outerForm)) parts) := by
  let docs := docLine (" Generated binder for `" ++ m.qualifiedName ++ "`.") ::
    m.bindings.toList.map fun b => slotDoc b.1 b.2
  let methods := descriptions path ++ r.injection m path
  refine ⟨_, ⟨ident, docs, Text.Quoted.literal m.binderName, methods, identified, ?_, rfl⟩, ?_⟩
  · intro line among
    rcases List.mem_cons.mp among with rfl | slot
    · exact ⟨_, rfl⟩
    · obtain ⟨b, -, rfl⟩ := List.mem_map.mp slot
      exact ⟨_, rfl⟩
  · intro cfg
    have ident' : HostModel.binderIdent { m with cfg } = .ok ident := identified
    have path' : HostModel.typePath { m with cfg } = .ok path := typed
    have texts : conditions { m with cfg } = cfg.map (·.outerForm) :=
      List.map_congr_left fun a _ => a.text_eq
    have qualified : HostModel.qualifiedName { m with cfg } = m.qualifiedName := rfl
    have named : HostModel.binderName { m with cfg } = m.binderName := rfl
    have injected : r.injection { m with cfg } path = r.injection m path := rfl
    rw [binder, ident', path', behind]
    refine congrArg (fun ps => Except.ok (phrases ps)) ?_
    rw [declaration, nameConstant, contract, texts, qualified, named, injected]
    simp only [docs, methods, List.flatMap_cons, List.flatMap_nil, List.append_assoc, List.cons_append,
      List.nil_append, List.append_nil]

end Renderer

/-! ### Hosts of a crate -/

/-- The model is that of the struct, with any fields bound. -/
def BuiltFrom (crateName : String) {t : Tree} {root : Path} (d : FieldDeclaration t root) (m : HostModel) : Prop :=
  m.header = .ofHost (d.host crateName)

namespace BuiltFrom

variable {t : Tree} {root : Path} {crateName : String} {d : FieldDeclaration t root} {m : HostModel}

theorem conditions_eq (built : BuiltFrom crateName d m) :
    Renderer.conditions m = (d.host crateName).cfg.map (·.outerForm) := by
  have cfg : m.cfg = (d.host crateName).cfg := congrArg HostModel.cfg built
  rw [Renderer.conditions, cfg]
  exact List.map_congr_left fun a _ => a.text_eq

theorem crateName_eq (built : BuiltFrom crateName d m) : m.crateName = Scan.pathCrateName crateName :=
  congrArg HostModel.crateName built

theorem binderIdent_ok_iff (built : BuiltFrom crateName d m) :
    (∃ x, m.binderIdent = .ok x) ↔ CanLead (Scan.pathCrateName crateName) := by
  have segments := d.segments_of_header built
  rw [HostModel.binderIdent_ok_iff fun s among => (segments s among).word, built.crateName_eq]

theorem exists_parts (built : BuiltFrom crateName d m) (leads : CanLead (Scan.pathCrateName crateName))
    (r : Renderer) :
    ∃ parts, r.BareParts m parts ∧
      (∀ cfg, r.binder { m with cfg } = .ok (Renderer.behind (cfg.map (·.outerForm)) parts)) ∧
      r.binder m = .ok (Renderer.behind ((d.host crateName).cfg.map (·.outerForm)) parts) := by
  obtain ⟨ident, identified⟩ := built.binderIdent_ok_iff.mpr leads
  obtain ⟨path, typed⟩ := HostModel.typePath_ok (d.segments_of_header built)
  obtain ⟨parts, bare, sources⟩ := Renderer.exists_parts (r := r) identified typed
  refine ⟨parts, bare, sources, ?_⟩
  have cfg : m.cfg = (d.host crateName).cfg := congrArg HostModel.cfg built
  rw [← cfg]
  exact sources m.cfg

theorem binder_ok_iff (built : BuiltFrom crateName d m) (r : Renderer) :
    (∃ text, r.binder m = .ok text) ↔ CanLead (Scan.pathCrateName crateName) := by
  constructor
  · rintro ⟨text, made⟩
    obtain ⟨ident, path, identified, -⟩ := isBinderText_of_binder (g := ⟨.ofCrate crateName, r⟩) made
    exact built.binderIdent_ok_iff.mp ⟨ident, identified⟩
  · intro leads
    obtain ⟨parts, -, -, made⟩ := built.exists_parts leads r
    exact ⟨_, made⟩

end BuiltFrom

section Crate

variable {levels : Nat} {t : Tree} {crateName : String} {root : Path} {out : ScanOutput}

/-- The entry is that of a host, under the conditions on the struct that the host was built from. -/
def Carries (crateName : String) (t : Tree) (root : Path) (m : HostModel) (e : TableEntry) : Prop :=
  TableEntry.Of m e ∧
    ∀ d : FieldDeclaration t root, BuiltFrom crateName d m →
      e.conditions = (d.host crateName).cfg.map (·.outerForm)

theorem exists_table (leads : CanLead (Scan.pathCrateName crateName)) (r : Renderer) {ms : List HostModel}
    (built : ∀ m ∈ ms, ∃ d : FieldDeclaration t root, BuiltFrom crateName d m) :
    ∃ es text, r.table ms = .ok text ∧ r.Tabulates es text ∧ List.Forall₂ (Carries crateName t root) ms es := by
  have idents : ∀ m ∈ ms, ∃ x, m.binderIdent = .ok x := by
    intro m member
    obtain ⟨d, own⟩ := built m member
    exact own.binderIdent_ok_iff.mpr leads
  obtain ⟨text, made⟩ := Generator.table_ok (r := r) idents
  obtain ⟨es, entries, tabulates⟩ := Renderer.tabulates_of_table made
  refine ⟨es, text, made, tabulates, entries.imp ?_⟩
  intro m e entry
  exact ⟨entry, fun d own => entry.conditions.trans own.conditions_eq⟩

/-- The conditions that a scan records for a struct are those on the way to it, from the root file on: those of
each module in front of those of its file, and at last those of the struct. In the source of a binder they
stand in front of its three parts and nowhere else, in the table in front of the two mentions of the host. -/
theorem conditions_reach_source (scanned : scanCrate levels t crateName root = some out) :
    (∀ d : FieldDeclaration t root,
      (d.host crateName).cfg = cfgAttributes d.file.attributes ++
        d.levels.flatMap (fun l => cfgAttributes l.decl.attributes ++ cfgAttributes l.inner) ++
        cfgAttributes d.decl.attributes ∧
      ∃ site ∈ out.sites, ∃ member type access, site.element = .field (d.host crateName) member type access) ∧
    (∀ site ∈ out.sites, ∀ host member type access, site.element = .field host member type access →
      ∃ d : FieldDeclaration t root, host = d.host crateName) ∧
    (∀ g : Generator, ∀ m ∈ (g.group out.sites).models.values,
      ∃ d : FieldDeclaration t root, BuiltFrom crateName d m) ∧
    ∀ r : Renderer,
      (∀ (d : FieldDeclaration t root) m, BuiltFrom crateName d m →
        ((∃ text, r.binder m = .ok text) ↔ CanLead (Scan.pathCrateName crateName))) ∧
      (CanLead (Scan.pathCrateName crateName) →
        (∀ (d : FieldDeclaration t root) m, BuiltFrom crateName d m → ∃ parts, r.BareParts m parts ∧
          (∀ cfg, r.binder { m with cfg } = .ok (Renderer.behind (cfg.map (·.outerForm)) parts)) ∧
          r.binder m = .ok (Renderer.behind ((d.host crateName).cfg.map (·.outerForm)) parts)) ∧
        ∀ ms, (∀ m ∈ ms, ∃ d : FieldDeclaration t root, BuiltFrom crateName d m) →
          ∃ es text, r.table ms = .ok text ∧ r.Tabulates es text ∧
            List.Forall₂ (Carries crateName t root) ms es) := by
  refine ⟨fun d => ⟨d.cfg_hostOf _, _, d.mem_sites scanned, _, _, _, rfl⟩, ?_,
    fun g m => Generator.exists_declaration scanned,
    fun r => ⟨fun d m built => built.binder_ok_iff r, fun leads => ?_⟩⟩
  · intro site among host member type access element
    obtain ⟨d, rfl⟩ := exists_site scanned among element
    exact ⟨d, (Element.field.inj element).1.symm⟩
  · exact ⟨fun d m built => built.exists_parts leads r, fun ms => exists_table leads r⟩

/-- A struct in a file that is declared in an inline module, and a struct of the root file. -/
theorem conditions_reach_source_of_nest :
    let g : Generator := { config := .ofCrate "app", renderer := { runtime := ":: viewbind" } }
    let t := Tree.ofList
      [("src/lib.rs", .file (.text ("#![cfg(a)] " ++
          "#[cfg(b)] #[doc(hidden)] pub mod o \x7b #![cfg(c)] #[cfg(d)] pub mod i; \x7d " ++
          "pub struct P \x7b #[bind(1)] pub x: L \x7d"))),
        ("src/o/i.rs", .file (.text "#![cfg(e)] #[cfg(f)] pub struct H \x7b #[bind(1)] #[cfg(g)] pub x: L \x7d"))]
    let chain := ["# [cfg (a)]", "# [cfg (b)]", "# [cfg (c)]", "# [cfg (d)]", "# [cfg (e)]", "# [cfg (f)]"]
    ∃ out, scanCrate 2 t "app" "src/lib.rs" = some out ∧ CanLead (Scan.pathCrateName "app") ∧
      ∃ (d : FieldDeclaration t "src/lib.rs") (m : HostModel), BuiltFrom "app" d m ∧
        m ∈ (g.group out.sites).models.values ∧ m.qualifiedName = "app::o::i::H" ∧
        (d.host "app").cfg.map (·.outerForm) = chain ∧
        (∃ parts, g.renderer.BareParts m parts ∧ g.renderer.binder m = .ok (Renderer.behind chain parts)) ∧
        ∃ es text, g.renderer.table (g.group out.sites).models.values = .ok text ∧ g.renderer.Tabulates es text ∧
          es.map (·.conditions) = [["# [cfg (a)]"], chain] := by
  intro g t chain
  have leads : CanLead (Scan.pathCrateName "app") := by decide +kernel
  have facts : (scanCrate 2 t "app" "src/lib.rs").any (fun out =>
      (g.group out.sites).models.values.map (fun m => (m.qualifiedName, m.cfg.map (·.outerForm))) =
        [("app::P", ["# [cfg (a)]"]), ("app::o::i::H", chain)]) = true := by
    decide +kernel
  obtain ⟨out, scanned, holds⟩ := (Option.any_eq_true _ _).mp facts
  have models := of_decide_eq_true holds
  obtain ⟨-, -, built, rendered⟩ := conditions_reach_source scanned
  obtain ⟨binders, tables⟩ := (rendered g.renderer).2 leads
  have built := built g
  refine ⟨out, scanned, leads, ?_⟩
  generalize (g.group out.sites).models.values = ms at models built ⊢
  obtain ⟨plain, rest, rfl, plainIs, models⟩ := List.map_eq_cons_iff.mp models
  obtain ⟨home, rest, rfl, homeIs, none⟩ := List.map_eq_cons_iff.mp models
  obtain rfl := List.map_eq_nil_iff.mp none
  obtain ⟨-, plainConditions⟩ := Prod.mk.inj plainIs
  obtain ⟨homeName, homeConditions⟩ := Prod.mk.inj homeIs
  have member : home ∈ [plain, home] := by simp
  obtain ⟨d, own⟩ := built home member
  have conditions : (d.host "app").cfg.map (·.outerForm) = chain := by
    rw [← homeConditions]
    exact congrArg (fun m : HostModel => m.cfg.map (·.outerForm)) own.symm
  obtain ⟨parts, bare, -, made⟩ := binders d home own
  obtain ⟨es, text, table, tabulates, entries⟩ := tables _ built
  rw [conditions] at made
  refine ⟨d, home, own, member, homeName, conditions, ⟨parts, bare, made⟩, es, text, table, tabulates, ?_⟩
  cases entries with
  | @cons _ plainEntry _ _ first others =>
    cases others with
    | @cons _ homeEntry _ _ second others =>
      cases others
      have gated : plainEntry.conditions = ["# [cfg (a)]"] := by
        rw [first.1.conditions, ← plainConditions]
        exact List.map_congr_left fun a _ => a.text_eq
      have chained : homeEntry.conditions = chain := (second.2 d own).trans conditions
      rw [List.map_cons, List.map_cons, List.map_nil, gated, chained]

end Crate

end SlotBinding
