import SlotBinding.Proofs.ModuleTree
import SlotBinding.Validation

/-!
# The fields that sites come from

A `FieldDeclaration` is a marked field with the way to it. `exists_fieldDeclaration` finds one for every
valid site of a scanned crate, and its conditions are those that the way has collected.
-/

namespace SlotBinding

open Syntax (Attribute FieldDecl Item SourceFile StructDecl VariantDecl)
open Files (Path Tree)

/-! ### Marked fields -/

namespace Site

theorem element_of_valid? {site : Site} {v : ValidSite} (valid : site.valid? = some v) :
    ∃ access, site.element = .field v.host v.field.member v.field.type access ∧ site.slot = .id v.slot := by
  unfold valid? at valid
  cases outcome : site.validate with
  | error r => rw [outcome] at valid; cases valid
  | ok w =>
    rw [outcome] at valid
    obtain rfl := Option.some.inj valid
    unfold validate at outcome
    split at outcome
    · cases outcome
    · rename_i host member type access element
      split at outcome
      · cases outcome
      · rename_i slot id
        repeat' split at outcome
        all_goals cases outcome
        exact ⟨access, element, id⟩

end Site

namespace Scan

theorem of_mem_sitesOf {c : ModuleContext} {as : List Attribute} {e : Element} {site : Site}
    (member : site ∈ sitesOf c as e) :
    ∃ a ∈ as, a.isMark = true ∧
      site = { location := c.location a.start, slot := .ofAttribute a, element := e } := by
  obtain ⟨a, marked, rfl⟩ := List.mem_map.mp member
  obtain ⟨among, mark⟩ := List.mem_filter.mp marked
  exact ⟨a, among, mark, rfl⟩

def fieldSite (c : ModuleContext) (host : Host) (position : Nat) (f : FieldDecl) (mark : Attribute) :
    Site :=
  { location := c.location mark.start, slot := .ofAttribute mark
    element := .field host (memberOf position f) f.type (.ofVisibility f.visibility c.depth) }

theorem of_mem_fieldSites {c : ModuleContext} {host : Host} {n : Nat} {fs : List FieldDecl} {site : Site}
    (member : site ∈ fieldSites c host n fs) :
    ∃ position f mark, fs[position]? = some f ∧ mark ∈ f.attributes ∧ mark.isMark = true ∧
      site = fieldSite c host (n + position) f mark := by
  induction fs generalizing n with
  | nil => simp [fieldSites] at member
  | cons f rest ih =>
    rcases List.mem_append.mp member with here | later
    · obtain ⟨mark, among, isMark, rfl⟩ := of_mem_sitesOf here
      exact ⟨0, f, mark, rfl, among, isMark, rfl⟩
    · obtain ⟨position, g, mark, placed, among, isMark, rfl⟩ := ih later
      refine ⟨position + 1, g, mark, placed, among, isMark, ?_⟩
      rw [Nat.add_right_comm, Nat.add_assoc]

theorem mem_fieldSites {c : ModuleContext} {host : Host} {n position : Nat} {fs : List FieldDecl}
    {f : FieldDecl} {mark : Attribute} (placed : fs[position]? = some f) (marked : mark ∈ f.attributes)
    (isMark : mark.isMark = true) : fieldSite c host (n + position) f mark ∈ fieldSites c host n fs := by
  induction fs generalizing n position with
  | nil => cases placed
  | cons g rest ih =>
    cases position with
    | zero =>
      obtain rfl := Option.some.inj placed
      exact List.mem_append_left _ (List.mem_map_of_mem (List.mem_filter.mpr ⟨marked, isMark⟩))
    | succ position =>
      refine List.mem_append_right _ ?_
      rw [← Nat.add_assoc, Nat.add_right_comm]
      exact ih placed

def Misplaced (site : Site) : Prop := ∃ kind name, site.element = .other kind name

theorem misplaced_of_mem {c : ModuleContext} {as : List Attribute} {kind : ElementKind} {name : String}
    {site : Site} (member : site ∈ misplaced c as kind name) : Misplaced site := by
  obtain ⟨a, _, _, rfl⟩ := of_mem_sitesOf member
  exact ⟨kind, name, rfl⟩

theorem misplaced_of_mem_variantFieldSites {c : ModuleContext} {variant : String} {n : Nat}
    {fs : List FieldDecl} {site : Site} (member : site ∈ variantFieldSites c variant n fs) :
    Misplaced site := by
  induction fs generalizing n with
  | nil => simp [variantFieldSites] at member
  | cons f rest ih =>
    rcases List.mem_append.mp member with here | later
    · exact misplaced_of_mem here
    · exact ih later

theorem misplaced_of_mem_parts {α : Type u} {c : ModuleContext} {as : List Attribute}
    {kind : ElementKind} {name : String} {xs : List α} {parts : α → List Site} {site : Site}
    (inside : ∀ x ∈ xs, site ∈ parts x → Misplaced site)
    (member : site ∈ misplaced c as kind name ++ xs.flatMap parts) : Misplaced site := by
  rcases List.mem_append.mp member with own | part
  · exact misplaced_of_mem own
  · obtain ⟨x, among, here⟩ := List.mem_flatMap.mp part
    exact inside x among here

theorem misplaced_of_mem_variantSites {c : ModuleContext} {enum : String} {v : VariantDecl} {site : Site}
    (member : site ∈ variantSites c enum v) : Misplaced site := by
  rcases List.mem_append.mp member with own | field
  · exact misplaced_of_mem own
  · exact misplaced_of_mem_variantFieldSites field

theorem of_mem_itemSites {crateName : String} {c : ModuleContext} {i : Item} {site : Site}
    (member : site ∈ itemSites crateName c i) :
    Misplaced site ∨ ∃ decl position f mark, i = .struct decl ∧ decl.fields[position]? = some f ∧
      mark ∈ f.attributes ∧ mark.isMark = true ∧
      site = fieldSite c (hostOf crateName c decl) position f mark := by
  cases i with
  | struct decl =>
    rcases List.mem_append.mp member with own | inside
    · exact Or.inl (misplaced_of_mem own)
    · obtain ⟨position, f, mark, placed, among, isMark, rfl⟩ := of_mem_fieldSites inside
      rw [Nat.zero_add]
      exact Or.inr ⟨decl, position, f, mark, rfl, placed, among, isMark, rfl⟩
  | enum => exact Or.inl (misplaced_of_mem_parts (fun _ _ => misplaced_of_mem_variantSites) member)
  | union => exact Or.inl (misplaced_of_mem_parts (fun _ _ => misplaced_of_mem) member)
  | impl => exact Or.inl (misplaced_of_mem_parts (fun _ _ => misplaced_of_mem) member)
  | trait => exact Or.inl (misplaced_of_mem_parts (fun _ _ => misplaced_of_mem) member)
  | mod => exact Or.inl (misplaced_of_mem member)
  | simple => exact Or.inl (misplaced_of_mem member)
  | shapeless => simp [itemSites] at member

end Scan

/-- Whether a file has only structs and a check holds of all their fields. -/
def Syntax.SourceFile.allFields (check : FieldDecl → Bool) (f : SourceFile) : Bool :=
  f.items.all fun i =>
    match i with
    | .struct d => d.fields.all check
    | _ => false

/-- A marked field of a struct that the modules of a root file lead to. -/
structure FieldDeclaration (t : Tree) (root : Path) where
  file : SourceFile
  levels : List Scan.Level
  context : ModuleContext
  items : List Item
  decl : StructDecl
  position : Nat
  field : FieldDecl
  mark : Attribute
  holds : Scan.Holds t root file
  way : Scan.Within t (Scan.fileContext root (rootContext root) file) file.items levels context items
  among : .struct decl ∈ items
  kept : isTestOnly decl.attributes = false
  placed : decl.fields[position]? = some field
  marked : mark ∈ field.attributes
  isMark : mark.isMark = true

namespace FieldDeclaration

variable {t : Tree} {root : Path} {crateName : String}

def site (d : FieldDeclaration t root) (crateName : String) : Site :=
  Scan.fieldSite d.context (Scan.hostOf crateName d.context d.decl) d.position d.field d.mark

/-- The conditions on the struct: those of the root file, of the modules around it and its own. -/
def hostConditions (d : FieldDeclaration t root) : List Attribute :=
  cfgAttributes d.file.attributes ++ d.levels.flatMap (·.conditions) ++ cfgAttributes d.decl.attributes

def conditions (d : FieldDeclaration t root) : List Attribute :=
  d.hostConditions ++ cfgAttributes d.field.attributes

/-- The declaration is the origin of the valid site. -/
def Gives (d : FieldDeclaration t root) (crateName : String) (v : ValidSite) : Prop :=
  (d.site crateName).valid? = some v

theorem cfg_hostOf (d : FieldDeclaration t root) (crateName : String) :
    (Scan.hostOf crateName d.context d.decl).cfg = d.hostConditions := by
  have chain := Scan.cfg_within d.way
  simp [Scan.hostOf, chain, Scan.fileContext, rootContext, hostConditions]

theorem host_of_gives {d : FieldDeclaration t root} {v : ValidSite} (gives : d.Gives crateName v) :
    v.host = Scan.hostOf crateName d.context d.decl := by
  obtain ⟨access, element, _⟩ := Site.element_of_valid? gives
  exact (Element.field.inj element).1.symm

theorem cfg_of_gives {d : FieldDeclaration t root} {v : ValidSite} (gives : d.Gives crateName v) :
    v.host.cfg = d.hostConditions := by
  rw [host_of_gives gives, cfg_hostOf]

theorem check_of_allFields {check : FieldDecl → Bool} (d : FieldDeclaration t root)
    (flat : d.file.allFields check = true) : check d.field = true := by
  obtain ⟨file, levels, context, items, decl, _, field, _, _, way, among, _, placed, _, _⟩ := d
  have each := List.all_eq_true.mp flat
  cases way with
  | here =>
    have fields : decl.fields.all check = true := each (.struct decl) among
    exact List.all_eq_true.mp fields field (List.mem_of_getElem? placed)
  | inside there => cases each _ there

end FieldDeclaration

theorem FieldDeclaration.mem_sites {levels : Nat} {t : Tree} {crateName : String} {root : Path}
    {out : ScanOutput} (scanned : scanCrate levels t crateName root = some out)
    (d : FieldDeclaration t root) : d.site (Scan.pathCrateName crateName) ∈ out.sites := by
  let host := Scan.hostOf (Scan.pathCrateName crateName) d.context d.decl
  have field : Scan.fieldSite d.context host (0 + d.position) d.field d.mark ∈
      Scan.fieldSites d.context host 0 d.decl.fields := Scan.mem_fieldSites d.placed d.marked d.isMark
  rw [Nat.zero_add] at field
  exact scanCrate_complete scanned ⟨d.file, d.holds, d.levels, d.context, d.items, .struct d.decl, d.way,
    d.among, d.kept, List.mem_append_right _ field⟩

/-- Every site on a field in a scan of a crate is that of a marked field. -/
theorem exists_site {levels : Nat} {t : Tree} {crateName : String} {root : Path} {out : ScanOutput}
    (scanned : scanCrate levels t crateName root = some out) {site : Site} (among : site ∈ out.sites)
    {host : Host} {member : Member} {type : List Token} {access : Access}
    (element : site.element = .field host member type access) :
    ∃ d : FieldDeclaration t root, d.site (Scan.pathCrateName crateName) = site := by
  obtain ⟨file, holds, ways, context, items, i, way, here, kept, own⟩ :=
    scanCrate_sound scanned site among
  rcases Scan.of_mem_itemSites own with ⟨kind, name, other⟩ | ⟨decl, position, f, mark, rfl, rest⟩
  · rw [element] at other
    cases other
  · obtain ⟨placed, marked, isMark, rfl⟩ := rest
    exact ⟨⟨file, ways, context, items, decl, position, f, mark, holds, way, here, kept, placed, marked,
      isMark⟩, rfl⟩

theorem exists_fieldDeclaration {levels : Nat} {t : Tree} {crateName : String} {root : Path}
    {out : ScanOutput} (scanned : scanCrate levels t crateName root = some out) {v : ValidSite}
    (valid : v ∈ out.sites.filterMap (·.valid?)) :
    ∃ d : FieldDeclaration t root, d.Gives (Scan.pathCrateName crateName) v := by
  obtain ⟨site, member, valid⟩ := List.mem_filterMap.mp valid
  obtain ⟨access, element, _⟩ := Site.element_of_valid? valid
  obtain ⟨d, rfl⟩ := exists_site scanned member element
  exact ⟨d, valid⟩

end SlotBinding
