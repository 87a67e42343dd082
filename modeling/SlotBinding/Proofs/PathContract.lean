import SlotBinding.Injection.Registry
import SlotBinding.Proofs.Conditions
import SlotBinding.Proofs.DerivedPath

/-!
# One name from the derived path to the registry

`names_agree`: the path that is derived for a marked struct, the name under which a scan records the struct
and the name of its model are the same, and the binder of the model is named by a literal whose value is
the name under which a host of that path is looked up.
-/

namespace SlotBinding

open Files (Path Tree)

namespace FieldDeclaration

variable {t : Tree} {root : Path}

def host (d : FieldDeclaration t root) (crateName : String) : Host :=
  Scan.hostOf (Scan.pathCrateName crateName) d.context d.decl

/-- The value of `module_path!()` around the declaration: the crate and the modules, without the marks of
raw names. -/
def modulePath (d : FieldDeclaration t root) (crateName : String) : String :=
  "::".intercalate (Scan.pathCrateName crateName :: d.levels.map fun l => plainName l.decl.name)

theorem qualifiedName_host (d : FieldDeclaration t root) (crateName : String) :
    (d.host crateName).qualifiedName = d.modulePath crateName ++ "::" ++ plainName d.decl.name := by
  have path : d.context.path = d.levels.map fun l => plainName l.decl.name := Scan.path_within d.way
  have front : Scan.pathCrateName crateName :: d.levels.map (fun l => plainName l.decl.name) ≠ [] := by simp
  have name : [plainName d.decl.name] ≠ [] := by simp
  rw [Host.qualifiedName, host, Scan.hostOf, path, String.intercalate_append_of_ne_nil front name,
    String.intercalate_singleton]
  rfl

end FieldDeclaration

/-- The text is the source of a binder, in which the constant for its name is a literal for the name. -/
def NamesBinder (g : Generator) (m : HostModel) (text name : String) : Prop :=
  ∃ ident typePath literal, m.binderIdent = .ok ident ∧ m.typePath = .ok typePath ∧
    text = phrases (Renderer.declaration m ident ++
      (Renderer.conditions m ++ ["impl", ident, "\x7b pub const NAME : & str =", literal, "; \x7d"]) ++
      g.renderer.contract m ident typePath) ∧
    ReadsAs literal name

theorem namesBinder_of_binder {g : Generator} {m : HostModel} {text : String}
    (made : g.renderer.binder m = .ok text) : NamesBinder g m text m.binderName := by
  obtain ⟨ident, path, identOk, pathOk, text⟩ := isBinderText_of_binder made
  exact ⟨ident, path, Text.Quoted.literal m.binderName, identOk, pathOk, text, readsAs_literal _⟩

/-- The host type is looked up under the name and under no other. -/
def LooksFor (h : HostType) (name : String) : Prop :=
  ∀ r : Registry,
    (r.locate h = .error (.binderNotFound name) ↔ r.get? name = none) ∧
    ∀ b, r.locate h = .ok b ↔ r.get? name = some b ∧ b.version = contractVersion ∧ b.host = h

theorem locate_of_get? {r : Registry} {h : HostType} {b : Binder} (found : r.get? h.binderName = some b) :
    r.locate h =
      if b.version = contractVersion then
        if b.host = h then .ok b else .error (.hostMismatch b.name h.name)
      else .error (.contractMismatch h.binderName b.version) := by
  unfold Registry.locate Registry.locateByName
  rw [found]
  by_cases current : b.version = contractVersion <;> simp [current]

theorem looksFor_binderName (h : HostType) : LooksFor h h.binderName := by
  intro r
  cases found : r.get? h.binderName with
  | none => simp [Registry.locate, Registry.locateByName, found]
  | some b =>
    rw [locate_of_get? found]
    by_cases current : b.version = contractVersion
    · by_cases own : b.host = h
      · simp only [current, own, if_true]
        refine ⟨by simp, fun c => ⟨?_, ?_⟩⟩
        · rintro ⟨⟩
          exact ⟨rfl, current, own⟩
        · rintro ⟨⟨⟩, _⟩
          rfl
      · simp only [current, own, if_true, if_false]
        refine ⟨by simp, fun c => ⟨by simp, ?_⟩⟩
        rintro ⟨⟨⟩, _, same⟩
        exact absurd same own
    · simp only [current, if_false]
      refine ⟨by simp, fun c => ⟨by simp, ?_⟩⟩
      rintro ⟨⟨⟩, same, _⟩
      exact absurd same current

/-- The path that is derived for a struct, the name under which the scan of a crate records the struct and
the name of its model are one. The literal in the binder of the model is the name under which hosts of
that path are looked up. -/
theorem names_agree {levels : Nat} {t : Tree} {crateName : String} {root : Path} {out : ScanOutput}
    (scanned : scanCrate levels t crateName root = some out) (g : Generator) :
    (∀ site ∈ out.sites, ∀ host member type access, site.element = .field host member type access →
      ∃ d : FieldDeclaration t root, host = d.host crateName) ∧
    ∀ d : FieldDeclaration t root, ∃ path,
      (∀ e ts, Declares ts d.decl.name → EmitsPath (derivePath e ts) (d.modulePath crateName) path) ∧
      (∃ site ∈ out.sites, ∃ member type access,
        site.element = .field (d.host crateName) member type access) ∧
      (d.host crateName).qualifiedName = path ∧
      (∀ v, d.Gives (Scan.pathCrateName crateName) v →
        ∃ m, (g.group out.sites).models.get? v.host.qualifiedName = some m ∧ m.qualifiedName = path ∧
          ∀ text, g.renderer.binder m = .ok text → NamesBinder g m text (binderName path)) ∧
      ∀ h : HostType, h.path = path → LooksFor h (binderName path) := by
  constructor
  · intro site among host member type access element
    obtain ⟨d, rfl⟩ := exists_site scanned among element
    exact ⟨d, (Element.field.inj element).1.symm⟩
  · intro d
    have name := d.qualifiedName_host crateName
    refine ⟨_, fun e ts declares => emitsPath_derivePath declares e _, ?_, name, ?_, ?_⟩
    · exact ⟨_, d.mem_sites scanned, _, _, _, rfl⟩
    · intro v gives
      have valid : v ∈ out.sites.filterMap (·.valid?) :=
        List.mem_filterMap.mpr ⟨_, d.mem_sites scanned, gives⟩
      obtain ⟨m, found⟩ := Grouping.exists_get?_of_mem g.config.duplicateSlots valid
      obtain ⟨_, _, _, _, key, _⟩ := Grouping.header_of_get? found
      have own : m.qualifiedName = d.modulePath crateName ++ "::" ++ plainName d.decl.name := by
        rw [key, FieldDeclaration.host_of_gives gives]
        exact name
      refine ⟨m, found, own, fun text made => ?_⟩
      rw [← own]
      exact namesBinder_of_binder made
    · intro h path
      rw [← path]
      exact looksFor_binderName h

/-! ### A module around a struct -/

/-- Whether the file is a module around a struct that has one field with one attribute, a mark. -/
def Syntax.SourceFile.wraps (moduleName structName : String) (f : Syntax.SourceFile) : Bool :=
  match f.items with
  | [.mod m (some [.struct s])] =>
    match s.fields with
    | [field] =>
      match field.attributes with
      | [mark] =>
        !isTestOnly m.attributes && !isTestOnly s.attributes && mark.isMark &&
          plainName m.name = moduleName && s.name = structName
      | _ => false
    | _ => false
  | _ => false

theorem FieldDeclaration.exists_of_wraps {t : Tree} {root : Path} {f : Syntax.SourceFile}
    (holds : Scan.Holds t root f) {moduleName structName : String}
    (wraps : f.wraps moduleName structName = true) :
    ∃ d : FieldDeclaration t root, d.levels.map (fun l => plainName l.decl.name) = [moduleName] ∧
      d.decl.name = structName := by
  unfold Syntax.SourceFile.wraps at wraps
  split at wraps
  · rename_i m s items
    split at wraps
    · rename_i field fields
      split at wraps
      · rename_i mark marks
        simp only [Bool.and_eq_true, Bool.not_eq_true', decide_eq_true_eq] at wraps
        obtain ⟨⟨⟨⟨keptM, keptS⟩, isMark⟩, nameM⟩, nameS⟩ := wraps
        have among : .mod m (some [.struct s]) ∈ f.items := by simp [items]
        have way := Scan.Within.inside (t := t) (c := Scan.fileContext root (rootContext root) f)
          (l := ⟨m, []⟩) among keptM (.inline m [.struct s]) (.here _ _)
        exact ⟨⟨f, _, _, _, s, 0, field, mark, holds, way, by simp, keptS, by simp [fields],
          by simp [marks], isMark⟩, by simp [nameM], nameS⟩
      · cases wraps
    · cases wraps
  · cases wraps

def Syntax.Item.isStruct (name : String) : Syntax.Item → Bool
  | .struct s => s.name = name
  | _ => false

/-- A raw struct in a raw module of a crate with a hyphen in its name. -/
theorem names_agree_of_raw_names :
    let g : Generator := { config := .ofCrate "my-app", renderer := { runtime := ":: viewbind" } }
    let t := Tree.ofList [("src/lib.rs", .file (.text
      "pub mod r#type \x7b pub struct r#Été \x7b #[bind(1)] pub title: Label \x7d \x7d"))]
    ∃ out, scanCrate 1 t "my-app" "src/lib.rs" = some out ∧
      ∃ (d : FieldDeclaration t "src/lib.rs") (ts : List Token), Declares ts d.decl.name ∧
        (∀ e, EmitsPath (derivePath e ts) "my_app::type" "my_app::type::Été") ∧
        (d.host "my-app").qualifiedName = "my_app::type::Été" ∧
        ∃ m text, g.renderer.binder m = .ok text ∧
          NamesBinder g m text (binderName "my_app::type::Été") := by
  intro g t
  have rendered : (scanCrate 1 t "my-app" "src/lib.rs").any (fun out =>
      (out.sites.all fun site => site.valid?.isSome) &&
      (g.group out.sites).models.values.all fun m => (g.renderer.binder m).toOption.isSome) = true := by
    decide +kernel
  have parsed : (t.read "src/lib.rs").toOption.any (fun text =>
      (Grammar.sourceFile text).toOption.any (·.wraps "type" "r#Été")) = true := by
    decide +kernel
  have declared : (Token.ofString? "struct r#Été;").any (fun ts =>
      (Grammar.readAll Grammar.readItem ts).toOption.any (·.1.isStruct "r#Été")) = true := by
    decide +kernel
  obtain ⟨f, holds, wraps⟩ := Scan.exists_holds parsed
  obtain ⟨d, moduleName, structName⟩ := FieldDeclaration.exists_of_wraps holds wraps
  obtain ⟨out, scanned, checks⟩ := (Option.any_eq_true _ _).mp rendered
  obtain ⟨allValid, allWritten⟩ := Bool.and_eq_true_iff.mp checks
  obtain ⟨ts, _, reads⟩ := (Option.any_eq_true _ _).mp declared
  obtain ⟨⟨i, w⟩, read, named⟩ := (Option.any_eq_true _ _).mp reads
  have declares : Declares ts d.decl.name := by
    unfold Syntax.Item.isStruct at named
    split at named
    · rename_i decl item
      obtain rfl : i = .struct decl := item
      refine ⟨decl, w, eq_ok_of_toOption read, ?_⟩
      rw [structName]
      exact of_decide_eq_true named
    · cases named
  have modules : d.modulePath "my-app" = "my_app::type" := by
    rw [FieldDeclaration.modulePath, moduleName]
    decide +kernel
  have name : (d.host "my-app").qualifiedName = "my_app::type::Été" := by
    rw [d.qualifiedName_host, modules, structName]
    decide +kernel
  obtain ⟨path, emits, _, same, modelled, _⟩ := (names_agree scanned g).2 d
  obtain rfl : path = "my_app::type::Été" := same.symm.trans name
  obtain ⟨v, gives⟩ := Option.isSome_iff_exists.mp (List.all_eq_true.mp allValid _ (d.mem_sites scanned))
  obtain ⟨m, found, _, binder⟩ := modelled v gives
  obtain ⟨text, made⟩ := Option.isSome_iff_exists.mp
    (List.all_eq_true.mp allWritten m (Grouping.mem_values_of_get? found))
  refine ⟨out, scanned, d, ts, declares, fun e => ?_, name, m, text, eq_ok_of_toOption made,
    binder text (eq_ok_of_toOption made)⟩
  rw [← modules]
  exact emits e ts declares

end SlotBinding
