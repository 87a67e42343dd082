import SlotBinding.Proofs.PathContract

/-!
# Fields that the crate root reaches

`Visibility.Reaches` says which visibilities reach the root of a crate, by the number of modules above
a declaration. `validate_iff_reaches`: a marked field is accepted exactly if the field, its struct and
every module below the root's own reach the root, and the struct has no parameters. A module that does
not reach the root is named by the outermost one.
-/

namespace SlotBinding

open Syntax (ModPath Visibility)
open Files (Path Tree)

/-- A declaration in a module so many levels below the root of its crate can be named from there: it is
`pub`, `pub(crate)` (or `pub(in crate)`, which is read as the same), or visible as many levels up as there
are. -/
inductive Syntax.Visibility.Reaches : Visibility → Nat → Prop where
  | everywhere (depth : Nat) : Reaches .public depth
  | crate (depth : Nat) : Reaches (.restricted ⟨false, ["crate"]⟩) depth
  | upward {depth n : Nat} (up : 0 < n) (enough : depth ≤ n) :
      Reaches (.restricted ⟨false, List.replicate n "super"⟩) depth

namespace Access

theorem coversRoot_iff {path : ModPath} {depth : Nat} :
    coversRoot path depth = true ↔
      path = ⟨false, ["crate"]⟩ ∨
        ∃ n, 0 < n ∧ depth ≤ n ∧ path = ⟨false, List.replicate n "super"⟩ := by
  obtain ⟨rooted, segments⟩ := path
  cases rooted with
  | true => simp [coversRoot]
  | false =>
    simp only [coversRoot, Bool.not_false, Bool.true_and, Bool.or_eq_true, beq_iff_eq,
      Bool.and_eq_true, Bool.not_eq_true', List.isEmpty_eq_false_iff, List.all_eq_true,
      decide_eq_true_eq, ModPath.mk.injEq, true_and]
    apply or_congr Iff.rfl
    constructor
    · rintro ⟨⟨some, all⟩, enough⟩
      exact ⟨segments.length, List.length_pos_iff.mpr some, enough,
        List.eq_replicate_iff.mpr ⟨rfl, all⟩⟩
    · rintro ⟨n, up, enough, rfl⟩
      refine ⟨⟨?_, fun s member => List.eq_of_mem_replicate member⟩, by simpa using enough⟩
      intro none
      rw [List.replicate_eq_nil_iff] at none
      omega

theorem ofVisibility_ne_private_iff {v : Visibility} {depth : Nat} :
    ofVisibility v depth ≠ .private ↔ v.Reaches depth := by
  cases v with
  | inherited =>
    refine ⟨fun reaches => absurd rfl reaches, ?_⟩
    rintro ⟨⟩
  | «public» => exact ⟨fun _ => .everywhere depth, fun _ => by simp [ofVisibility]⟩
  | restricted path =>
    have covers : ofVisibility (.restricted path) depth ≠ .private ↔ coversRoot path depth = true := by
      cases covered : coversRoot path depth <;> simp [ofVisibility, covered]
    rw [covers, coversRoot_iff]
    constructor
    · rintro (rfl | ⟨n, up, enough, rfl⟩)
      · exact .crate depth
      · exact .upward up enough
    · intro reaches
      cases reaches with
      | crate => exact Or.inl rfl
      | upward up enough => exact Or.inr ⟨_, up, enough, rfl⟩

end Access

namespace Scan

/-- The module at a position of a way lies below a module of the root's own and does not reach the
root. -/
def Seals (levels : List Level) (i : Nat) : Prop :=
  ∃ l, levels[i]? = some l ∧ 0 < i ∧ ¬l.decl.visibility.Reaches i

def pathTo (levels : List Level) (i : Nat) : String :=
  "::".intercalate ((levels.take (i + 1)).map fun l => plainName l.decl.name)

/-- What is recorded of a way is the outermost of its modules that seals. -/
inductive RecordsSeal (levels : List Level) : Option String → Prop where
  | unsealed (reached : ∀ i, ¬Seals levels i) : RecordsSeal levels none
  | outermost {i : Nat} (seals : Seals levels i) (first : ∀ j, j < i → ¬Seals levels j) :
      RecordsSeal levels (some (pathTo levels i))

theorem lt_of_seals {levels : List Level} {i : Nat} (seals : Seals levels i) : i < levels.length := by
  obtain ⟨l, placed, _⟩ := seals
  exact (List.getElem?_eq_some_iff.mp placed).1

theorem RecordsSeal.eq_none_iff {levels : List Level} {recorded : Option String}
    (records : RecordsSeal levels recorded) : recorded = none ↔ ∀ i, ¬Seals levels i := by
  cases records with
  | unsealed reached => exact ⟨fun _ => reached, fun _ => rfl⟩
  | outermost seals first =>
    constructor
    · rintro ⟨⟩
    · exact fun reached => absurd seals (reached _)

theorem RecordsSeal.eq_some {levels : List Level} {recorded : Option String}
    (records : RecordsSeal levels recorded) {i : Nat} (seals : Seals levels i)
    (first : ∀ j, j < i → ¬Seals levels j) : recorded = some (pathTo levels i) := by
  cases records with
  | unsealed reached => exact absurd seals (reached i)
  | @outermost k sealsK firstK =>
    have notBelow : ¬k < i := fun less => first k less sealsK
    have notAbove : ¬i < k := fun less => firstK i less seals
    obtain rfl : k = i := by omega
    rfl

/-! ### Modules on the way -/

theorem seals_append_left {levels : List Level} {i : Nat} (seals : Seals levels i) (l : Level) :
    Seals (levels ++ [l]) i := by
  have inside := lt_of_seals seals
  obtain ⟨m, placed, rest⟩ := seals
  exact ⟨m, by rw [List.getElem?_append_left inside, placed], rest⟩

theorem seals_append_last {levels : List Level} {l : Level} (below : 0 < levels.length)
    (hidden : ¬l.decl.visibility.Reaches levels.length) : Seals (levels ++ [l]) levels.length :=
  ⟨l, List.getElem?_concat_length, below, hidden⟩

theorem of_seals_append {levels : List Level} {l : Level} {i : Nat} (seals : Seals (levels ++ [l]) i) :
    Seals levels i ∨ i = levels.length ∧ 0 < i ∧ ¬l.decl.visibility.Reaches i := by
  have bound := lt_of_seals seals
  rw [List.length_append, List.length_singleton] at bound
  obtain ⟨m, placed, below, hidden⟩ := seals
  by_cases inside : i < levels.length
  · rw [List.getElem?_append_left inside] at placed
    exact Or.inl ⟨m, placed, below, hidden⟩
  · obtain rfl : i = levels.length := by omega
    rw [List.getElem?_concat_length] at placed
    obtain rfl := Option.some.inj placed
    exact Or.inr ⟨rfl, below, hidden⟩

theorem pathTo_append_left {levels : List Level} {i : Nat} (inside : i < levels.length) (l : Level) :
    pathTo (levels ++ [l]) i = pathTo levels i := by
  rw [pathTo, pathTo, List.take_append_of_le_length (by omega)]

theorem pathTo_append_last (levels : List Level) (l : Level) :
    pathTo (levels ++ [l]) levels.length =
      "::".intercalate (levels.map (fun l => plainName l.decl.name) ++ [plainName l.decl.name]) := by
  rw [pathTo, List.take_of_length_le (by simp), List.map_append, List.map_singleton]

theorem recordsSeal_child {c : ModuleContext} {levels : List Level} {l : Level}
    (path : c.path = levels.map fun l => plainName l.decl.name)
    (records : RecordsSeal levels c.sealedModule) :
    RecordsSeal (levels ++ [l]) (c.childSealed (plainName l.decl.name) l.decl.visibility) := by
  have depth : c.depth = levels.length := by rw [ModuleContext.depth, path, List.length_map]
  unfold ModuleContext.childSealed
  generalize c.sealedModule = recorded at records ⊢
  cases records with
  | @outermost i seals first =>
    -- What is recorded stays, and it is still the outermost.
    dsimp only
    rw [← pathTo_append_left (lt_of_seals seals) l]
    refine .outermost (seals_append_left seals l) fun j less sealsJ => ?_
    rcases of_seals_append sealsJ with inner | ⟨last, _⟩
    · exact first j less inner
    · have inside := lt_of_seals seals
      omega
  | unsealed reached =>
    dsimp only
    rw [depth, path, ← pathTo_append_last]
    have hides : (0 < levels.length && Access.ofVisibility l.decl.visibility levels.length = .private) = true ↔
        0 < levels.length ∧ ¬l.decl.visibility.Reaches levels.length := by
      rw [← Access.ofVisibility_ne_private_iff]
      simp
    split
    · rename_i hidden
      obtain ⟨below, hidden⟩ := hides.mp hidden
      refine .outermost (seals_append_last below hidden) fun j less sealsJ => ?_
      rcases of_seals_append sealsJ with inner | ⟨last, _⟩
      · exact reached j inner
      · omega
    · rename_i seen
      refine .unsealed fun i seals => ?_
      rcases of_seals_append seals with inner | ⟨rfl, last⟩
      · exact reached i inner
      · exact seen (hides.mpr last)

variable {t : Tree} {c c' : ModuleContext} {is is' : List Syntax.Item}

theorem sealedModule_opens {l : Level} {content : Option (List Syntax.Item)}
    (opens : Opens t c l content c' is') :
    c'.sealedModule = c.childSealed (plainName l.decl.name) l.decl.visibility := by
  cases opens with
  | inline d is =>
    unfold inlineContext
    split <;> rfl
  | file found holds =>
    rw [fileContext, inside_of_moduleFile? found]
    rfl

theorem path_opens {l : Level} {content : Option (List Syntax.Item)}
    (opens : Opens t c l content c' is') : c'.path = c.path ++ [plainName l.decl.name] := by
  cases opens with
  | inline d is => exact path_inlineContext c d
  | @file d p inside f found holds =>
    have path : inside.path = c.path ++ [plainName d.name] := path_of_moduleFile? found
    exact path

theorem recordsSeal_within {levels before : List Level} (way : Within t c is levels c' is')
    (path : c.path = before.map fun l => plainName l.decl.name)
    (records : RecordsSeal before c.sealedModule) : RecordsSeal (before ++ levels) c'.sealedModule := by
  induction way generalizing before with
  | here => simpa using records
  | @inside c c' c'' is is' is'' l levels content among kept opens deeper ih =>
    have step : RecordsSeal (before ++ [l]) c'.sealedModule := by
      rw [sealedModule_opens opens]
      exact recordsSeal_child path records
    have names : c'.path = (before ++ [l]).map fun l => plainName l.decl.name := by
      rw [path_opens opens, path, List.map_append, List.map_singleton]
    simpa using ih names step

theorem recordsSeal_nil : RecordsSeal [] none := by
  refine .unsealed ?_
  rintro i ⟨l, placed, _⟩
  cases placed

end Scan

namespace FieldDeclaration

variable {t : Tree} {root : Path}

theorem depth_context (d : FieldDeclaration t root) : d.context.depth = d.levels.length := by
  have path : d.context.path = d.levels.map fun l => plainName l.decl.name := Scan.path_within d.way
  rw [ModuleContext.depth, path, List.length_map]

theorem recordsSeal (d : FieldDeclaration t root) : Scan.RecordsSeal d.levels d.context.sealedModule :=
  Scan.recordsSeal_within d.way rfl Scan.recordsSeal_nil

theorem atCrateRoot_host (d : FieldDeclaration t root) (crateName : String) :
    (d.host crateName).atCrateRoot = true ↔ d.levels = [] := by
  have path : d.context.path = d.levels.map fun l => plainName l.decl.name := Scan.path_within d.way
  simp [Host.atCrateRoot, host, Scan.hostOf, path]

end FieldDeclaration

/-! ### Acceptance -/

theorem Site.validate_ok_iff {site : Site} {host : Host} {member : Member} {type : List Token}
    {access : Access} {slot : Int32} (element : site.element = .field host member type access)
    (id : site.slot = .id slot) :
    (∃ v, site.validate = .ok v) ↔
      access ≠ .private ∧ (host.access ≠ .private ∨ host.atCrateRoot = true) ∧
        host.sealedModule = none ∧ host.generic = false := by
  unfold validate
  rw [element, id]
  dsimp only
  by_cases hidden : access = .private
  · simp [hidden]
  · rw [if_neg hidden]
    cases seen : decide (host.access = .private) && !host.atCrateRoot with
    | true =>
      rw [if_pos rfl]
      simp only [Bool.and_eq_true, decide_eq_true_eq, Bool.not_eq_true'] at seen
      simp [seen]
    | false =>
      have visible : host.access ≠ .private ∨ host.atCrateRoot = true := by
        simpa [Classical.or_iff_not_imp_left] using seen
      rw [if_neg (by simp)]
      cases host.sealedModule with
      | some m => simp
      | none => cases host.generic <;> simp [hidden, visible]

/-- A marked field of a crate is accepted exactly if it can be named from the root: the field reaches the
root, so do its struct (unless it stands at the root) and all modules below the root's own, and the struct
has no parameters. Where some of these modules do not reach the root, the outermost is recorded. -/
theorem validate_iff_reaches {t : Tree} {root : Path} (d : FieldDeclaration t root) {slot : Int32}
    (wellFormed : SlotArgument.ofAttribute d.mark = .id slot) (crateName : String) :
    (∀ n out, scanCrate n t crateName root = some out →
      d.site (Scan.pathCrateName crateName) ∈ out.sites) ∧
    ((∃ v, (d.site (Scan.pathCrateName crateName)).validate = .ok v) ↔
      d.field.visibility.Reaches d.levels.length ∧
      (d.levels = [] ∨ d.decl.visibility.Reaches d.levels.length) ∧
      (∀ i l, d.levels[i]? = some l → 0 < i → l.decl.visibility.Reaches i) ∧
      d.decl.generic = false) ∧
    ((d.host crateName).sealedModule = none ↔
      ∀ i l, d.levels[i]? = some l → 0 < i → l.decl.visibility.Reaches i) ∧
    ∀ i l, d.levels[i]? = some l → 0 < i → ¬l.decl.visibility.Reaches i →
      (∀ j m, d.levels[j]? = some m → 0 < j → j < i → m.decl.visibility.Reaches j) →
      (d.host crateName).sealedModule = some (Scan.pathTo d.levels i) := by
  have records : Scan.RecordsSeal d.levels (d.host crateName).sealedModule := d.recordsSeal
  have unsealed : (d.host crateName).sealedModule = none ↔
      ∀ i l, d.levels[i]? = some l → 0 < i → l.decl.visibility.Reaches i := by
    rw [records.eq_none_iff]
    constructor
    · intro reached i l placed below
      exact Classical.byContradiction fun hidden => reached i ⟨l, placed, below, hidden⟩
    · rintro reaches i ⟨l, placed, below, hidden⟩
      exact hidden (reaches i l placed below)
  refine ⟨fun n out scanned => d.mem_sites scanned, ?_, unsealed, ?_⟩
  · have element : (d.site (Scan.pathCrateName crateName)).element = .field (d.host crateName)
        (Scan.memberOf d.position d.field) d.field.type (.ofVisibility d.field.visibility d.context.depth) := rfl
    have accepted := Site.validate_ok_iff element wellFormed
    change _ ↔ _ ∧ (Access.ofVisibility d.decl.visibility d.context.depth ≠ .private ∨ _) ∧ _ ∧
      d.decl.generic = false at accepted
    rw [accepted, d.depth_context, Access.ofVisibility_ne_private_iff,
      Access.ofVisibility_ne_private_iff, d.atCrateRoot_host, unsealed, or_comm (b := d.levels = [])]
  · intro i l placed below hidden reached
    refine records.eq_some ⟨l, placed, below, hidden⟩ fun j less seals => ?_
    obtain ⟨m, placedM, belowM, hiddenM⟩ := seals
    exact hiddenM (reached j m placedM belowM less)

/-- A field two modules down, in a file below an inline module, is visible exactly as far as the root. -/
theorem validate_iff_reaches_upward :
    let t := Tree.ofList
      [("src/lib.rs", .file (.text "mod screens \x7b pub(super) mod home; \x7d")),
        ("src/screens/home.rs", .file (.text
          "pub(crate) struct Home \x7b #[bind(1)] pub(in super::super) title: Label \x7d"))]
    ∃ d : FieldDeclaration t "src/lib.rs", SlotArgument.ofAttribute d.mark = .id 1 ∧
      d.levels.length = 2 ∧ (∃ v, (d.site "app").validate = .ok v) ∧
      d.field.visibility.Reaches 2 ∧ d.decl.visibility.Reaches 2 ∧
      (∀ l, d.levels[1]? = some l → l.decl.visibility.Reaches 1) ∧ d.decl.generic = false ∧
      (d.host "app").sealedModule = none := by
  intro t
  have facts : (scanCrate 2 t "app" "src/lib.rs").any (fun out =>
      out.sites.any fun site => site.valid?.any fun v =>
        v.slot = 1 && v.host.modulePath = ["screens", "home"]) = true := by
    decide +kernel
  obtain ⟨out, scanned, found⟩ := (Option.any_eq_true _ _).mp facts
  obtain ⟨site, among, checks⟩ := List.any_eq_true.mp found
  obtain ⟨v, valid, checked⟩ := (Option.any_eq_true _ _).mp checks
  obtain ⟨slot, modules⟩ := Bool.and_eq_true_iff.mp checked
  obtain ⟨access, element, marked⟩ := Site.element_of_valid? valid
  obtain ⟨d, rfl⟩ := exists_site scanned among element
  have wellFormed : SlotArgument.ofAttribute d.mark = .id 1 := by
    rw [← of_decide_eq_true slot]
    exact marked
  have host : v.host = d.host "app" := FieldDeclaration.host_of_gives valid
  have path : d.context.path = ["screens", "home"] := by
    rw [host] at modules
    exact of_decide_eq_true modules
  have two : d.levels.length = 2 := by
    rw [← d.depth_context, ModuleContext.depth, path]
    rfl
  have ok : ∃ v, (d.site (Scan.pathCrateName "app")).validate = .ok v :=
    ⟨v, eq_ok_of_toOption valid⟩
  obtain ⟨_, accepted, unsealed, _⟩ := validate_iff_reaches d wellFormed "app"
  obtain ⟨field, struct, modules, plain⟩ := accepted.mp ok
  rw [two] at field struct
  refine ⟨d, wellFormed, two, ok, field, ?_, fun l placed => modules 1 l placed Nat.one_pos, plain,
    unsealed.mpr modules⟩
  rcases struct with none | reaches
  · rw [none] at two
    cases two
  · exact reaches

end SlotBinding
