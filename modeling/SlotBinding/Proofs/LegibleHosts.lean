import SlotBinding.Proofs.BinderReading
import SlotBinding.Proofs.Conditions

/-!
# Hosts of a crate are legible

A model holds attributes and names that a parsed file declares. `legible_of_scan`: every model of a scanned crate is
legible, so that its binder can be read back.
-/

namespace SlotBinding

open Files (Path Tree)
open Syntax (Attribute FieldDecl Item)
open Token (Lexed)

variable {t : Tree} {root : Path}

namespace Scan

variable {c c' : ModuleContext} {is is' : List Item}

def Keeps (is : List Item) : Prop := ∀ i ∈ is, ∀ j, i.Holds j → j.Keeps Lexed

theorem keeps_of_holds {p : Path} {f : Syntax.SourceFile} (holds : Holds t p f) :
    (∀ a ∈ f.attributes, Lexed a.inside) ∧ Keeps f.items := by
  obtain ⟨_, -, parsed⟩ := holds
  exact Grammar.bears_of_sourceFile parsed

theorem mem_of_mem_cfgAttributes {a : Attribute} {as : List Attribute} (member : a ∈ cfgAttributes as) : a ∈ as :=
  (List.mem_filter.mp member).1

theorem keeps_within {levels : List Level} (way : Within t c is levels c' is') (keeps : Keeps is) :
    (∀ l ∈ levels, ∀ a ∈ l.conditions, Lexed a.inside) ∧ Keeps is' := by
  induction way with
  | here => exact ⟨by simp, keeps⟩
  | @inside c c' c'' is is' is'' l levels content among kept opens deeper ih =>
    have declared : ∀ a ∈ l.decl.attributes, Lexed a.inside := (keeps _ among _ (.self _)).attributes
    obtain ⟨inner, next⟩ : (∀ a ∈ l.inner, Lexed a.inside) ∧ Keeps is' := by
      cases opens with
      | inline d is' => exact ⟨nofun, fun i member j holds => keeps _ among j (.content member holds)⟩
      | file found holds => exact keeps_of_holds holds
    obtain ⟨behind, last⟩ := ih next
    refine ⟨List.forall_mem_cons.mpr ⟨fun a member => ?_, behind⟩, last⟩
    rcases List.mem_append.mp member with own | own
    · exact declared a (mem_of_mem_cfgAttributes own)
    · exact inner a (mem_of_mem_cfgAttributes own)

end Scan

namespace FieldDeclaration

open Scan (mem_of_mem_cfgAttributes)

theorem lexed_hostConditions (d : FieldDeclaration t root) : ∀ a ∈ d.hostConditions, Lexed a.inside := by
  obtain ⟨outer, keeps⟩ := Scan.keeps_of_holds d.holds
  obtain ⟨levels, items⟩ := Scan.keeps_within d.way keeps
  intro a member
  rcases List.mem_append.mp member with around | own
  · rcases List.mem_append.mp around with file | above
    · exact outer a (mem_of_mem_cfgAttributes file)
    · obtain ⟨l, among, above⟩ := List.mem_flatMap.mp above
      exact levels l among a above
  · exact (items _ d.among _ (.self _)).attributes a (mem_of_mem_cfgAttributes own)

theorem isSpelled_member (d : FieldDeclaration t root) : (Scan.memberOf d.position d.field).IsSpelled := by
  obtain ⟨-, items⟩ := Scan.keeps_within d.way (Scan.keeps_of_holds d.holds).2
  have names := (items _ d.among _ (.self _)).names d.decl rfl d.field (List.mem_of_getElem? d.placed)
  intro name named
  unfold Scan.memberOf at named
  split at named
  · rename_i w own
    obtain rfl := Member.named.inj named
    cases names w own with
    | word spelled => exact spelled
  · cases named

end FieldDeclaration

namespace Generator

variable {g : Generator} {levels : Nat} {crateName : String} {out : ScanOutput}

/-- The conditions and the names of the fields of every model of a scanned crate are legible. -/
theorem legible_of_scan (scanned : scanCrate levels t crateName root = some out) {m : HostModel}
    (member : m ∈ (g.group out.sites).models.values) : m.Legible where
  conditions a among := by
    obtain ⟨d, header⟩ := exists_declaration scanned member
    have cfg : m.cfg = d.hostConditions :=
      (congrArg HostModel.cfg header).trans (d.cfg_hostOf (Scan.pathCrateName crateName))
    exact (d.lexed_hostConditions a (cfg ▸ among)).legible
  members := by
    rintro ⟨slot, f⟩ bound
    obtain ⟨v, binds, rfl⟩ := exists_binds member bound
    obtain ⟨d, gives⟩ := exists_fieldDeclaration scanned (List.mem_filter.mp (mem_of_binds binds).1).1
    obtain ⟨access, element, -⟩ := Site.element_of_valid? gives
    obtain ⟨-, own, -⟩ := Element.field.inj element
    exact own ▸ d.isSpelled_member

end Generator

end SlotBinding
