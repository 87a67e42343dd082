import SlotBinding.Proofs.BlindItems
import SlotBinding.Proofs.ModuleTree

/-!
# Modules with their content and modules in files

A module means the same whether its items stand with it or in its file.
-/

namespace SlotBinding

open Syntax (Attribute FieldDecl Item MemberDecl ModuleDecl SourceFile StructDecl VariantDecl)
open Files (Path Tree)

instance : Placed Location := ⟨fun _ => {}⟩

instance : Placed Host where
  unplaced h := { h with cfg := unplaced h.cfg, location := unplaced h.location }

instance : Placed Element where
  unplaced
    | .field host member type access => .field (unplaced host) member (unplaced type) access
    | other => other

instance : Placed Site := ⟨fun s => ⟨unplaced s.location, s.slot, unplaced s.element⟩⟩

instance : Placed Diagnostic := ⟨fun d => { d with location := unplaced d.location }⟩

/-- The files that were read are no places of findings. -/
instance : Placed ScanOutput := ⟨fun o => ⟨unplaced o.sites, unplaced o.diagnostics, o.files⟩⟩

instance : Placed ModuleContext := ⟨fun c => { c with file := "", cfg := unplaced c.cfg }⟩

theorem ScanOutput.unplaced_append (a b : ScanOutput) :
    unplaced (a ++ b) = unplaced a ++ unplaced b := by
  show ScanOutput.mk (unplaced (a.sites ++ b.sites)) (unplaced (a.diagnostics ++ b.diagnostics)) _ = _
  rw [SlotBinding.unplaced_append, SlotBinding.unplaced_append]
  rfl

/-! ### Attributes without their places -/

namespace Token

mutual

theorem unplaced_unplaced (t : Token) : unplaced (unplaced t) = unplaced t := by
  cases t with
  | word | punct | literal => rfl
  | group p d inner => rw [unplaced_group, unplaced_group, unplacedAll_unplaced inner]

theorem unplacedAll_unplaced (ts : List Token) : unplaced (unplaced ts) = unplaced ts := by
  cases ts with
  | nil => rfl
  | cons t rest =>
    rw [unplaced_cons, unplaced_cons, unplaced_unplaced t, unplacedAll_unplaced rest]

end

mutual

theorem text_unplaced (t : Token) : (unplaced t).text = t.text := by
  cases t with
  | word | punct | literal => rfl
  | group p d inner => rw [unplaced_group, text, text, textAll_unplaced inner, isEmpty_unplaced]

theorem textAll_unplaced (ts : List Token) : textAll (unplaced ts) = textAll ts := by
  cases ts with
  | nil => rfl
  | cons t rest =>
    have gap : (unplaced t).gapAfter = t.gapAfter := by
      cases t with
      | punct p c s => cases s <;> rfl
      | word | literal | group => rfl
    have others := textAll_unplaced rest
    cases rest with
    | nil => exact text_unplaced t
    | cons u more =>
      show (unplaced t).text ++ (unplaced t).gapAfter ++ textAll (unplaced (u :: more)) = _
      rw [text_unplaced t, gap, others]
      rfl

end

end Token

namespace Syntax.Attribute

theorem unplaced_unplaced (a : Attribute) : unplaced (unplaced a) = unplaced a := by
  obtain ⟨start, path, argument, inside⟩ := a
  have same : unplaced (unplaced argument) = unplaced argument := by
    cases argument with
    | none | value => rfl
    | list d ts => exact congrArg (AttributeArgument.list d) (Token.unplacedAll_unplaced ts)
  exact congrArg₂ (Attribute.mk _ path) same (Token.unplacedAll_unplaced inside)

theorem isCfgTest_unplaced (a : Attribute) : (unplaced a).isCfgTest = a.isCfgTest := by
  obtain ⟨start, path, argument, inside⟩ := a
  cases argument with
  | none | value => rfl
  | list d ts =>
    rcases ts with _ | ⟨t, _ | ⟨u, more⟩⟩
    · rfl
    · cases t <;> rfl
    · cases t <;> rfl

theorem filePath?_unplaced (a : Attribute) : (unplaced a).filePath? = a.filePath? := by
  obtain ⟨start, path, argument, inside⟩ := a
  cases argument <;> rfl

end Syntax.Attribute

theorem unplacedAttributes_unplaced (as : List Attribute) : unplaced (unplaced as) = unplaced as := by
  show (as.map unplaced).map unplaced = as.map unplaced
  rw [List.map_map]
  exact List.map_congr_left fun a _ => a.unplaced_unplaced

theorem cfgAttributes_unplaced (as : List Attribute) :
    cfgAttributes (unplaced as) = unplaced (cfgAttributes as) := by
  show (as.map unplaced).filter _ = (as.filter _).map unplaced
  rw [List.filter_map]
  rfl

theorem filePath?_unplaced (as : List Attribute) : filePath? (unplaced as) = filePath? as := by
  show (as.map unplaced).findSome? _ = _
  rw [List.findSome?_map]
  exact congrArg (as.findSome? ·) (funext Syntax.Attribute.filePath?_unplaced)

theorem isTestOnly_unplaced (as : List Attribute) : isTestOnly (unplaced as) = isTestOnly as := by
  show (as.map unplaced).any _ = _
  rw [List.any_map]
  exact congrArg (as.any ·) (funext Syntax.Attribute.isCfgTest_unplaced)

namespace Scan

/-! ### The sites of one item -/

variable {crateName : String} (c : ModuleContext)

theorem sitesOf_unplaced (as : List Attribute) {e e' : Element} (same : unplaced e' = unplaced e) :
    unplaced (sitesOf (unplaced c) (unplaced as) e') = unplaced (sitesOf c as e) := by
  show ((((as.map unplaced).filter (·.isMark)).map _).map unplaced : List Site) =
    ((as.filter (·.isMark)).map _).map unplaced
  rw [List.filter_map, List.map_map, List.map_map, List.map_map]
  refine List.map_congr_left fun a _ => ?_
  exact congrArg₂ (Site.mk {}) (SlotArgument.ofAttribute_unplaced a) same

theorem misplaced_unplaced (as : List Attribute) (kind : ElementKind) (name : String) :
    unplaced (misplaced (unplaced c) (unplaced as) kind name) = unplaced (misplaced c as kind name) :=
  sitesOf_unplaced c as rfl

theorem flatMap_unplaced {α β : Type} [Placed α] [Placed β] {f g : α → List β} (xs : List α)
    (same : ∀ x, unplaced (g (unplaced x)) = unplaced (f x)) :
    unplaced ((unplaced xs).flatMap g) = unplaced (xs.flatMap f) := by
  induction xs with
  | nil => rfl
  | cons x rest ih =>
    rw [unplaced_cons, List.flatMap_cons, List.flatMap_cons, unplaced_append, unplaced_append, same, ih]

theorem hostOf_unplaced (d : StructDecl) :
    unplaced (hostOf crateName (unplaced c) (unplaced d)) = unplaced (hostOf crateName c d) := by
  have cfg : unplaced (unplaced c.cfg ++ cfgAttributes (unplaced d.attributes)) =
      unplaced (c.cfg ++ cfgAttributes d.attributes) := by
    rw [unplaced_append, unplaced_append, cfgAttributes_unplaced, unplacedAttributes_unplaced,
      unplacedAttributes_unplaced]
  exact congrArg (fun cfg => { unplaced (hostOf crateName c d) with cfg }) cfg

theorem fieldSites_unplaced {host host' : Host} (same : unplaced host' = unplaced host) (n : Nat)
    (fs : List FieldDecl) :
    unplaced (fieldSites (unplaced c) host' n (unplaced fs)) = unplaced (fieldSites c host n fs) := by
  induction fs generalizing n with
  | nil => rfl
  | cons f rest ih =>
    rw [unplaced_cons, fieldSites, fieldSites, unplaced_append, unplaced_append, ih]
    have element : unplaced (Element.field host' (memberOf n (unplaced f)) (unplaced f.type)
        (.ofVisibility f.visibility c.depth)) =
        unplaced (Element.field host (memberOf n f) f.type (.ofVisibility f.visibility c.depth)) := by
      show Element.field _ _ (unplaced (unplaced f.type)) _ = Element.field _ _ _ _
      rw [same, Token.unplacedAll_unplaced]
      rfl
    exact congrArg (· ++ _) (sitesOf_unplaced c f.attributes element)

theorem variantFieldSites_unplaced (variant : String) (n : Nat) (fs : List FieldDecl) :
    unplaced (variantFieldSites (unplaced c) variant n (unplaced fs)) =
      unplaced (variantFieldSites c variant n fs) := by
  induction fs generalizing n with
  | nil => rfl
  | cons f rest ih =>
    rw [unplaced_cons, variantFieldSites, variantFieldSites, unplaced_append, unplaced_append, ih]
    exact congrArg (· ++ _) (misplaced_unplaced c f.attributes _ _)

theorem variantSites_unplaced (enum : String) (v : VariantDecl) :
    unplaced (variantSites (unplaced c) enum (unplaced v)) = unplaced (variantSites c enum v) := by
  show unplaced (_ ++ _) = unplaced (_ ++ _)
  rw [unplaced_append, unplaced_append]
  exact congrArg₂ (· ++ ·) (misplaced_unplaced c v.attributes _ _)
    (variantFieldSites_unplaced c _ 0 v.fields)

theorem itemSites_unplaced (i : Item) :
    unplaced (itemSites crateName (unplaced c) (unplaced i)) = unplaced (itemSites crateName c i) := by
  have parts {α : Type} [Placed α] {own own' : List Site} {f g : α → List Site} (xs : List α)
      (front : unplaced own' = unplaced own) (each : ∀ x, unplaced (g (unplaced x)) = unplaced (f x)) :
      unplaced (own' ++ (unplaced xs).flatMap g) = unplaced (own ++ xs.flatMap f) := by
    rw [unplaced_append, unplaced_append, front, flatMap_unplaced xs each]
  cases i with
  | struct d =>
    show unplaced (_ ++ _) = unplaced (_ ++ _)
    rw [unplaced_append, unplaced_append]
    exact congrArg₂ (· ++ ·) (misplaced_unplaced c d.attributes _ _)
      (fieldSites_unplaced c (hostOf_unplaced c d) 0 d.fields)
  | enum as name variants =>
    exact parts variants (misplaced_unplaced c as _ _) (variantSites_unplaced c name)
  | union as name fields =>
    exact parts fields (misplaced_unplaced c as _ _) fun f => misplaced_unplaced c f.attributes _ _
  | impl as target members =>
    show unplaced (misplaced _ _ .impl (Token.textAll (unplaced target)) ++
      (unplaced members).flatMap (memberSites _ (Token.textAll (unplaced target)))) = _
    rw [Token.textAll_unplaced]
    exact parts members (misplaced_unplaced c as _ _) fun m => misplaced_unplaced c m.attributes _ _
  | trait as name members =>
    exact parts members (misplaced_unplaced c as _ _) fun m => misplaced_unplaced c m.attributes _ _
  | mod d content =>
    rw [Item.unplaced_mod]
    exact misplaced_unplaced c d.attributes _ _
  | simple kind as name => exact misplaced_unplaced c as _ _
  | shapeless => rfl

/-! ### Scans without their places -/

variable {t : Tree} {file : FileScan}

/-- The scan of a file finds the same in a context without its places. -/
def Oblivious (file : FileScan) : Prop :=
  ∀ p c, unplaced (file p (unplaced c)) = unplaced (file p c)

theorem child_unplaced (d : ModuleDecl) : (unplaced c).child (unplaced d) = unplaced (c.child d) := by
  have cfg : unplaced c.cfg ++ cfgAttributes (unplaced d.attributes) =
      unplaced (c.cfg ++ cfgAttributes d.attributes) := by
    rw [unplaced_append, cfgAttributes_unplaced]
  exact congrArg (fun cfg => { unplaced (c.child d) with cfg }) cfg

theorem modAttributes_unplaced (d : ModuleDecl) : (unplaced d).attributes = unplaced d.attributes :=
  rfl

theorem inlineContext_unplaced (d : ModuleDecl) :
    inlineContext (unplaced c) (unplaced d) = unplaced (inlineContext c d) := by
  unfold inlineContext
  rw [child_unplaced, modAttributes_unplaced, filePath?_unplaced]
  cases filePath? d.attributes <;> rfl

theorem moduleFile?_unplaced (d : ModuleDecl) :
    moduleFile? t (unplaced c) (unplaced d) =
      (moduleFile? t c d).map fun r => (r.1, unplaced r.2) := by
  unfold moduleFile?
  rw [child_unplaced, modAttributes_unplaced, filePath?_unplaced]
  cases filePath? d.attributes with
  | some p => rfl
  | none =>
    dsimp only
    rw [apply_ite (Option.map _), apply_ite (Option.map _)]
    rfl

theorem fileModule_unplaced (oblivious : Oblivious file) (d : ModuleDecl) :
    unplaced (fileModule t file (unplaced c) (unplaced d)) = unplaced (fileModule t file c d) := by
  rw [fileModule_eq, fileModule_eq, moduleFile?_unplaced]
  cases moduleFile? t c d with
  | none => rfl
  | some r => exact oblivious r.1 r.2

theorem item_of_plain {i : Item} (plain : ∀ d content, i ≠ .mod d content) :
    item crateName t file c i =
      if isTestOnly i.attributes then some {} else some (.ofSites (itemSites crateName c i)) := by
  rw [item]
  exact plain

theorem attributes_unplaced (i : Item) : (unplaced i).attributes = unplaced i.attributes := by
  cases i with
  | mod d content =>
    rw [Item.unplaced_mod]
    rfl
  | struct | enum | union | impl | trait | simple | shapeless => rfl

theorem plainItem_unplaced {i : Item} (plain : ∀ d content, i ≠ .mod d content)
    (still : ∀ d content, unplaced i ≠ .mod d content) :
    unplaced (item crateName t file (unplaced c) (unplaced i)) =
      unplaced (item crateName t file c i) := by
  rw [item_of_plain _ plain, item_of_plain _ still, attributes_unplaced, isTestOnly_unplaced]
  split
  · rfl
  · exact congrArg (fun sites => some (ScanOutput.ofSites sites)) (itemSites_unplaced c i)

/-- Outcomes that differ only in places: both have come to an end, or none has. -/
theorem none_or_some_of_unplaced {a a' : Option ScanOutput} (same : unplaced a' = unplaced a) :
    a' = none ∧ a = none ∨
      ∃ out' out, a' = some out' ∧ a = some out ∧ unplaced out' = unplaced out := by
  cases a' with
  | none =>
    cases a with
    | none => exact .inl ⟨rfl, rfl⟩
    | some _ => cases same
  | some out' =>
    cases a with
    | none => cases same
    | some out => exact .inr ⟨out', out, rfl, rfl, Option.some.inj same⟩

theorem map_append_unplaced {front front' : ScanOutput} {b b' : Option ScanOutput}
    (sameFront : unplaced front' = unplaced front) (same : unplaced b' = unplaced b) :
    unplaced (b'.map (front' ++ ·)) = unplaced (b.map (front ++ ·)) := by
  obtain ⟨rfl, rfl⟩ | ⟨out', out, rfl, rfl, sameOut⟩ := none_or_some_of_unplaced same
  · rfl
  · show some (unplaced (front' ++ out')) = some (unplaced (front ++ out))
    rw [ScanOutput.unplaced_append, ScanOutput.unplaced_append, sameFront, sameOut]

theorem bind_append_unplaced {a a' b b' : Option ScanOutput} (sameFront : unplaced a' = unplaced a)
    (same : unplaced b' = unplaced b) :
    unplaced (a'.bind fun first => b'.map (first ++ ·)) =
      unplaced (a.bind fun first => b.map (first ++ ·)) := by
  obtain ⟨rfl, rfl⟩ | ⟨out', out, rfl, rfl, sameOut⟩ := none_or_some_of_unplaced sameFront
  · rfl
  · exact map_append_unplaced sameOut same

/-- The scan of some items is that of the first one and that of the others. -/
theorem items_cons (i : Item) (rest : List Item) :
    items crateName t file c (i :: rest) =
      (item crateName t file c i).bind fun first =>
        (items crateName t file c rest).map (first ++ ·) := by
  rw [items]
  cases item crateName t file c i with
  | none => rfl
  | some first => cases items crateName t file c rest <;> rfl

mutual

theorem item_unplaced (oblivious : Oblivious file) (c : ModuleContext) (i : Item) :
    unplaced (item crateName t file (unplaced c) (unplaced i)) =
      unplaced (item crateName t file c i) := by
  cases i with
  | mod d content =>
    have own : unplaced (itemSites crateName (unplaced c) (unplaced (Item.mod d content))) =
        unplaced (itemSites crateName c (.mod d content)) :=
      itemSites_unplaced c _
    rw [Item.unplaced_mod] at own ⊢
    rw [item_mod, item_mod, modAttributes_unplaced, isTestOnly_unplaced]
    split
    · rfl
    · refine map_append_unplaced (congrArg ScanOutput.ofSites own) ?_
      cases content with
      | none => exact fileModule_unplaced c oblivious d
      | some is =>
        have inside := items_unplaced oblivious (inlineContext c d) is
        rw [← inlineContext_unplaced] at inside
        exact inside
  | struct | enum | union | impl | trait | simple | shapeless =>
    exact plainItem_unplaced c (by rintro _ _ ⟨⟩) (by rintro _ _ ⟨⟩)

theorem items_unplaced (oblivious : Oblivious file) (c : ModuleContext) (is : List Item) :
    unplaced (items crateName t file (unplaced c) (unplaced is)) =
      unplaced (items crateName t file c is) := by
  cases is with
  | nil => rfl
  | cons i rest =>
    rw [unplaced_cons, items_cons, items_cons]
    exact bind_append_unplaced (item_unplaced oblivious c i) (items_unplaced oblivious c rest)

end

/-- Items that differ only in places are scanned alike in contexts that differ only in places. -/
theorem items_alike (oblivious : Oblivious file) {c c' : ModuleContext}
    (around : unplaced c = unplaced c') {is is' : List Item} (inside : unplaced is = unplaced is') :
    unplaced (items crateName t file c is) = unplaced (items crateName t file c' is') := by
  rw [← items_unplaced oblivious c is, ← items_unplaced oblivious c' is', around, inside]

theorem file_of_holds {n : Nat} {p : Path} {f : SourceFile} (holds : Holds t p f) :
    Scan.file crateName t (n + 1) p c =
      (items crateName t (Scan.file crateName t n) (fileContext p c f) f.items).map
        ({ files := [p] } ++ ·) := by
  obtain ⟨text, read, parsed⟩ := holds
  rw [Scan.file, read]
  dsimp only
  rw [source, parsed]
  show (items crateName t (Scan.file crateName t n) (fileContext p c f) f.items).bind _ = _
  exact Option.map_eq_bind.symm

theorem fileContext_unplaced (p : Path) (f : SourceFile) :
    unplaced (fileContext p (unplaced c) f) = unplaced (fileContext p c f) := by
  have cfg : unplaced (unplaced c.cfg ++ cfgAttributes f.attributes) =
      unplaced (c.cfg ++ cfgAttributes f.attributes) := by
    rw [unplaced_append, unplaced_append, unplacedAttributes_unplaced]
  exact congrArg (fun cfg => { unplaced (fileContext p c f) with cfg }) cfg

theorem file_oblivious (crateName : String) (t : Tree) (n : Nat) :
    Oblivious (Scan.file crateName t n) := by
  induction n with
  | zero => exact fun _ _ => rfl
  | succ n ih =>
    intro p c
    cases read : t.read p with
    | error e => rw [Scan.file, Scan.file, read]
    | ok text =>
      -- Only a file that can be parsed passes its context on.
      cases parsed : Grammar.sourceFile text with
      | error e =>
        rw [Scan.file, Scan.file, read]
        dsimp only
        rw [source, source, parsed]
      | ok f =>
        have holds : Holds t p f := ⟨text, read, parsed⟩
        rw [file_of_holds _ holds, file_of_holds _ holds]
        exact map_append_unplaced rfl (items_alike ih (fileContext_unplaced c p f) rfl)

/-! ### The two forms of a module -/

/-- Attributes at the front of a module's content that the module could have in front of it as well. -/
def Harmless (inner : List Attribute) : Prop :=
  ∀ a ∈ inner, a.isMark = false ∧ a.isCfgTest = false ∧ a.filePath? = none

variable {outer inner : List Attribute}

theorem isTestOnly_append_harmless (harmless : Harmless inner) :
    isTestOnly (outer ++ inner) = isTestOnly outer := by
  have none : isTestOnly inner = false :=
    List.any_eq_false.mpr fun a member => by simp [harmless a member]
  rw [isTestOnly, List.any_append, ← isTestOnly, ← isTestOnly, none, Bool.or_false]

theorem filePath?_append_harmless (harmless : Harmless inner) :
    filePath? (outer ++ inner) = filePath? outer := by
  have none : filePath? inner = none :=
    List.findSome?_eq_none_iff.mpr fun a member => (harmless a member).2.2
  rw [filePath?, List.findSome?_append, ← filePath?, ← filePath?, none, Option.or_none]

theorem sitesOf_append_harmless (harmless : Harmless inner) (element : Element) :
    sitesOf c (outer ++ inner) element = sitesOf c outer element := by
  have none : inner.filter (·.isMark) = [] :=
    List.filter_eq_nil_iff.mpr fun a member => by simp [harmless a member]
  rw [sitesOf, List.filter_append, none, List.append_nil, sitesOf]

theorem cfgAttributes_append (as bs : List Attribute) :
    cfgAttributes (as ++ bs) = cfgAttributes as ++ cfgAttributes bs :=
  List.filter_append as bs

/-- The content of a module and the file of the module are scanned in contexts that differ in places
alone. -/
theorem contexts_alike {d : ModuleDecl} {f : SourceFile} (p : Path) (harmless : Harmless inner)
    (unnamed : filePath? d.attributes = none) (same : unplaced f.attributes = unplaced inner) :
    unplaced (fileContext p (c.child d) f) =
      unplaced (inlineContext c { d with attributes := d.attributes ++ inner }) := by
  have conditions : unplaced (cfgAttributes f.attributes) = unplaced (cfgAttributes inner) := by
    rw [← cfgAttributes_unplaced, same, cfgAttributes_unplaced]
  have cfg : unplaced ((c.cfg ++ cfgAttributes d.attributes) ++ cfgAttributes f.attributes) =
      unplaced (c.cfg ++ cfgAttributes (d.attributes ++ inner)) := by
    rw [cfgAttributes_append, ← List.append_assoc, unplaced_append, conditions, ← unplaced_append]
  have inline : inlineContext c { d with attributes := d.attributes ++ inner } =
      c.child { d with attributes := d.attributes ++ inner } := by
    rw [inlineContext, filePath?_append_harmless harmless, unnamed]
  rw [inline]
  exact congrArg (fun cfg => { unplaced (c.child d) with cfg }) cfg

theorem isFile_of_holds {p : Path} {f : SourceFile} (holds : Holds t p f) : t.isFile p = true := by
  obtain ⟨text, read, _⟩ := holds
  unfold Tree.read at read
  unfold Tree.isFile
  split at read <;> simp_all

/-- The file of a module without a path: the one beside the directory of the module if it is there,
else the one inside it. -/
def IsFileOf (t : Tree) (c : ModuleContext) (d : ModuleDecl) (p : Path) : Prop :=
  let (flat, nested) := candidates c (plainName d.name)
  p = flat ∨ p = nested ∧ t.isFile flat = false

theorem moduleFile?_of_isFileOf {d : ModuleDecl} {p : Path} {f : SourceFile}
    (unnamed : filePath? d.attributes = none) (own : IsFileOf t c d p) (holds : Holds t p f) :
    moduleFile? t c d = some (p, c.child d) := by
  have there := isFile_of_holds holds
  rw [moduleFile?, unnamed]
  rcases own with rfl | ⟨rfl, absent⟩
  · exact if_pos there
  · exact (if_neg (ne_true_of_eq_false absent)).trans (if_pos there)

/-- The scan of a module whose content is given with it, with attributes at the front of the content. -/
theorem item_inline {d : ModuleDecl} (harmless : Harmless inner) (is : List Item) :
    item crateName t file c (.mod { d with attributes := d.attributes ++ inner } (some is)) =
      if isTestOnly d.attributes then some {}
      else
        (items crateName t file (inlineContext c { d with attributes := d.attributes ++ inner }) is).map
          (ScanOutput.ofSites (itemSites crateName c (.mod d none)) ++ ·) := by
  have marks : itemSites crateName c (.mod { d with attributes := d.attributes ++ inner } (some is)) =
      itemSites crateName c (.mod d none) :=
    sitesOf_append_harmless c harmless _
  rw [item_mod, marks, isTestOnly_append_harmless harmless]

theorem item_inFile {n : Nat} {d : ModuleDecl} {p : Path} {f : SourceFile}
    (unnamed : filePath? d.attributes = none) (own : IsFileOf t c d p) (holds : Holds t p f) :
    item crateName t (Scan.file crateName t (n + 1)) c (.mod d none) =
      if isTestOnly d.attributes then some {}
      else
        ((items crateName t (Scan.file crateName t n) (fileContext p (c.child d) f) f.items).map
          ({ files := [p] } ++ ·)).map
            (ScanOutput.ofSites (itemSites crateName c (.mod d none)) ++ ·) := by
  rw [item_mod, fileModule_eq, moduleFile?_of_isFileOf c unnamed own holds, ← file_of_holds _ holds]

/-- What is found with the content of a module and with its file, if their items are found alike. -/
theorem found_alike {sites : List Site} {p : Path} {a b : Option ScanOutput}
    (same : unplaced a = unplaced b) {out out' : ScanOutput}
    (scanned : b.map (ScanOutput.ofSites sites ++ ·) = some out)
    (scanned' : (a.map ({ files := [p] } ++ ·)).map (ScanOutput.ofSites sites ++ ·) = some out') :
    unplaced out.sites = unplaced out'.sites ∧ unplaced out.diagnostics = unplaced out'.diagnostics ∧
      out'.files = p :: out.files := by
  obtain ⟨rfl, rfl⟩ | ⟨inFile, inside, rfl, rfl, alike⟩ := none_or_some_of_unplaced same
  · cases scanned
  · obtain rfl := Option.some.inj scanned
    obtain rfl := Option.some.inj scanned'
    obtain ⟨sameSites, sameDiagnostics, sameFiles⟩ := ScanOutput.mk.inj alike
    refine ⟨?_, sameDiagnostics.symm, congrArg (p :: ·) sameFiles⟩
    show unplaced (sites ++ inside.sites) = unplaced (sites ++ inFile.sites)
    rw [unplaced_append, unplaced_append]
    exact congrArg (unplaced sites ++ ·) sameSites.symm

/-- A module means the same whether its items stand with it or in its file: both scans come to an end
or none does, and they find the same but for places and the file of the module itself. What stands in
front of the items goes with them. -/
theorem module_in_file_finds_same (crateName : String) (n : Nat) (c : ModuleContext) {d : ModuleDecl}
    {inner : List Attribute} {is : List Item} {p : Path} {f : SourceFile}
    (unnamed : filePath? d.attributes = none) (harmless : Harmless inner) (own : IsFileOf t c d p)
    (holds : Holds t p f) (sameAttributes : unplaced f.attributes = unplaced inner)
    (sameItems : unplaced f.items = unplaced is) :
    let inline := item crateName t (Scan.file crateName t n) c
      (.mod { d with attributes := d.attributes ++ inner } (some is))
    let inFile := item crateName t (Scan.file crateName t (n + 1)) c (.mod d none)
    (inline = none ↔ inFile = none) ∧
      ∀ out out', inline = some out → inFile = some out' →
        unplaced out.sites = unplaced out'.sites ∧
          unplaced out.diagnostics = unplaced out'.diagnostics ∧
          out'.files = if isTestOnly d.attributes then out.files else p :: out.files := by
  dsimp only
  rw [item_inline c harmless, item_inFile c unnamed own holds]
  have inside : unplaced (items crateName t (Scan.file crateName t n) (fileContext p (c.child d) f)
      f.items) = unplaced (items crateName t (Scan.file crateName t n)
        (inlineContext c { d with attributes := d.attributes ++ inner }) is) :=
    items_alike (file_oblivious crateName t n)
      (contexts_alike c p harmless unnamed sameAttributes) sameItems
  split
  · refine ⟨Iff.rfl, fun out out' scanned scanned' => ?_⟩
    obtain rfl := Option.some.inj scanned
    obtain rfl := Option.some.inj scanned'
    exact ⟨rfl, rfl, rfl⟩
  · refine ⟨?_, fun out out' => found_alike inside⟩
    obtain ⟨there, here⟩ | ⟨_, _, there, here, _⟩ := none_or_some_of_unplaced inside <;>
      simp [there, here]

/-- A module with a condition at its front and with a module in a file of its own. -/
theorem unix_module_in_file_finds_same :
    let inFile := "#![cfg(unix)]\nmod y;\npub struct H \x7b #[bind(1)] pub a: L \x7d"
    let inline := "  #![cfg(unix)] mod y; pub struct H \x7b #[bind(1)] pub a: L \x7d"
    let t := Tree.ofList
      [("src/x.rs", .file (.text inFile)),
        ("src/x/y.rs", .file (.text "pub struct K \x7b #[bind(2)] pub b: L \x7d"))]
    let c := rootContext "src/lib.rs"
    let d : ModuleDecl := ⟨[], .inherited, ⟨1, 4⟩, "x"⟩
    ∃ f g out out', Holds t "src/x.rs" f ∧ Grammar.sourceFile inline = .ok g ∧
      item "app" t (Scan.file "app" t 2) c
          (.mod { d with attributes := d.attributes ++ g.attributes } (some g.items)) = some out ∧
        item "app" t (Scan.file "app" t 3) c (.mod d none) = some out' ∧
        out.sites.length = 2 ∧ unplaced out.sites = unplaced out'.sites ∧
        unplaced out.diagnostics = unplaced out'.diagnostics ∧
        out'.files = "src/x.rs" :: out.files := by
  intro inFile inline t c d
  -- The two texts are laid out differently, so their items agree without places only.
  have laidOut : unplaced (Grammar.fileTokens? inFile) = unplaced (Grammar.fileTokens? inline) := by
    decide +kernel
  have read : (t.read "src/x.rs").toOption.any (fun text => text = inFile) = true := by
    decide +kernel
  have checked : (Grammar.sourceFile inline).toOption.any (fun g =>
      g.attributes.all (fun a => !a.isMark && !a.isCfgTest && a.filePath?.isNone) &&
        (item "app" t (Scan.file "app" t 2) c
          (.mod { d with attributes := d.attributes ++ g.attributes } (some g.items))).any fun out =>
            out.sites.length = 2) = true := by
    decide +kernel
  obtain ⟨text, readText, same⟩ := exists_ok_of_any read
  obtain rfl := of_decide_eq_true same
  obtain ⟨g, parsed, checks⟩ := exists_ok_of_any checked
  obtain ⟨plain, found⟩ := Bool.and_eq_true_iff.mp checks
  obtain ⟨out, scanned, two⟩ := (Option.any_eq_true _ _).mp found
  obtain ⟨f, parsedFile, alike⟩ := Grammar.exists_sourceFile_alike laidOut parsed
  have holds : Holds t "src/x.rs" f := ⟨inFile, readText, parsedFile⟩
  have harmless : Harmless g.attributes := by
    intro a member
    have := List.all_eq_true.mp plain a member
    simp_all
  have own : IsFileOf t c d "src/x.rs" := .inl (by decide +kernel)
  obtain ⟨ends, finds⟩ := module_in_file_finds_same "app" 2 c rfl harmless own holds
    (SourceFile.mk.inj alike).1 (SourceFile.mk.inj alike).2
  cases scannedFile : item "app" t (Scan.file "app" t 3) c (.mod d none) with
  | none =>
    rw [ends.mpr scannedFile] at scanned
    cases scanned
  | some out' =>
    exact ⟨f, g, out, out', holds, parsed, scanned, rfl, of_decide_eq_true two,
      finds out out' scanned scannedFile⟩

end Scan

end SlotBinding
