import SlotBinding.Proofs.ModuleTree
import SlotBinding.Proofs.TokenOrder

/-!
# Marks and the sites that record them

`scanCrate_records`: each time that a scan reads a file, it makes one site for each mark of the file, in the
order of the file. The marks of a file are those on its items, at any depth of its modules, and on their fields,
variants and members; test items are left out. `scanCrate_misses_marks` shows marks in other places.
-/

namespace SlotBinding

open Syntax (Attribute FieldDecl Item MemberDecl ModuleDecl SourceFile SyntaxError VariantDecl)
open Files (Path Tree)

namespace Syntax

def marksOf (as : List Attribute) : List Attribute := as.filter (·.isMark)

def fieldMarks (fs : List FieldDecl) : List Attribute := fs.flatMap fun f => marksOf f.attributes

def memberMarks (ms : List MemberDecl) : List Attribute := ms.flatMap fun m => marksOf m.attributes

def variantMarks (vs : List VariantDecl) : List Attribute :=
  vs.flatMap fun v => marksOf v.attributes ++ fieldMarks v.fields

/-- The marks on an item, its fields, its variants and its members. -/
def Item.partMarks : Item → List Attribute
  | .struct d => marksOf d.attributes ++ fieldMarks d.fields
  | .enum as _ vs => marksOf as ++ variantMarks vs
  | .union as _ fs => marksOf as ++ fieldMarks fs
  | .impl as _ ms | .trait as _ ms => marksOf as ++ memberMarks ms
  | .mod d _ => marksOf d.attributes
  | .simple _ as _ => marksOf as
  | .shapeless => []

mutual

/-- The marks on an item and on all that stands in it. An item for tests has none. -/
def Item.marks : Item → List Attribute
  | .mod d (some is) =>
    if isTestOnly d.attributes then [] else marksOf d.attributes ++ itemsMarks is
  | i => if isTestOnly i.attributes then [] else i.partMarks

def itemsMarks : List Item → List Attribute
  | [] => []
  | i :: rest => i.marks ++ itemsMarks rest

end

def SourceFile.marks (f : SourceFile) : List Attribute := itemsMarks f.items

/-! ### Marks in the tokens -/

theorem map_start_marksOf (as : List Attribute) :
    (marksOf as).map (·.start) = (Grammar.attributesDrawn as).marks := by
  rw [Drawn.marks_ofAll]
  induction as with
  | nil => rfl
  | cons a rest ih =>
    rw [List.flatMap_cons, ← ih, marksOf, List.filter_cons]
    by_cases mark : a.isMark = true <;> simp [Attribute.drawn, marksOf, mark]

theorem map_start_flatMap {α : Type} {xs : List α} {marks : α → List Attribute} {drawn : α → Drawn}
    (each : ∀ x ∈ xs, (marks x).map (·.start) = (drawn x).marks) :
    (xs.flatMap marks).map (·.start) = (Drawn.ofAll drawn xs).marks := by
  rw [Drawn.marks_ofAll, List.map_flatMap]
  exact List.flatMap_congr each

theorem map_start_fieldMarks (fs : List FieldDecl) :
    (fieldMarks fs).map (·.start) = (fieldsDrawn fs).marks :=
  map_start_flatMap fun f _ => map_start_marksOf f.attributes

theorem map_start_partMarks (i : Item) : (i.partMarks.map (·.start)).Sublist i.drawn.marks := by
  cases i with
  | struct d =>
    simp [Item.partMarks, Item.drawn, map_start_marksOf, map_start_fieldMarks]
  | enum as name vs =>
    have variants : (variantMarks vs).map (·.start) = (Drawn.ofAll VariantDecl.drawn vs).marks := by
      refine map_start_flatMap fun v _ => ?_
      rw [List.map_append, map_start_marksOf, map_start_fieldMarks]
      rfl
    simp [Item.partMarks, Item.drawn, map_start_marksOf, variants]
  | union as name fs => simp [Item.partMarks, Item.drawn, map_start_marksOf, map_start_fieldMarks]
  | impl as _ ms | trait as _ ms =>
    have members : (memberMarks ms).map (·.start) = (Drawn.ofAll MemberDecl.drawn ms).marks :=
      map_start_flatMap fun m _ => map_start_marksOf m.attributes
    simp [Item.partMarks, Item.drawn, map_start_marksOf, members]
  | mod d content =>
    cases content <;> simp [Item.partMarks, Item.drawn, map_start_marksOf]
  | simple kind as name => simp [Item.partMarks, Item.drawn, map_start_marksOf]
  | shapeless => exact List.nil_sublist _

mutual

theorem map_start_marks (i : Item) : (i.marks.map (·.start)).Sublist i.drawn.marks := by
  have parts (test : Bool) : ((if test then [] else i.partMarks).map (·.start)).Sublist i.drawn.marks := by
    cases test with
    | true => exact List.nil_sublist _
    | false => exact map_start_partMarks i
  cases i with
  | mod d content =>
    cases content with
    | none => exact parts _
    | some is =>
      rw [Item.marks]
      split
      · exact List.nil_sublist _
      · rw [List.map_append, map_start_marksOf, Item.drawn]
        simpa using map_start_itemsMarks is
  | struct | enum | union | impl | trait | simple => exact parts _
  | shapeless => exact parts (isTestOnly [])

theorem map_start_itemsMarks (is : List Item) :
    ((itemsMarks is).map (·.start)).Sublist (itemsDrawn is).marks := by
  cases is with
  | nil => exact List.nil_sublist _
  | cons i rest =>
    rw [itemsMarks, List.map_append, itemsDrawn]
    exact (map_start_marks i).append (map_start_itemsMarks rest)

end

end Syntax

/-! ### The sites of a file -/

namespace Site

def record (site : Site) : Location × SlotArgument := (site.location, site.slot)

end Site

def Syntax.Attribute.record (file : String) (a : Attribute) : Location × SlotArgument :=
  (.ofPosition file a.start, .ofAttribute a)

namespace Scan

variable {crateName : String} {t : Tree} {file : FileScan} {c : ModuleContext}

mutual

def itemOwn (crateName : String) (c : ModuleContext) : Item → List Site
  | .mod d (some is) =>
    if isTestOnly d.attributes then []
    else itemSites crateName c (.mod d none) ++ itemsOwn crateName (inlineContext c d) is
  | i => if isTestOnly i.attributes then [] else itemSites crateName c i

def itemsOwn (crateName : String) (c : ModuleContext) : List Item → List Site
  | [] => []
  | i :: rest => itemOwn crateName c i ++ itemsOwn crateName c rest

end

theorem file_inlineContext (c : ModuleContext) (d : ModuleDecl) : (inlineContext c d).file = c.file := by
  unfold inlineContext
  split <;> rfl

theorem records_sitesOf (c : ModuleContext) (as : List Attribute) (e : Element) :
    (sitesOf c as e).map Site.record = (Syntax.marksOf as).map (Attribute.record c.file) := by
  rw [sitesOf, List.map_map]
  rfl

theorem records_flatMap {α : Type} {xs : List α} {sites : α → List Site} {marks : α → List Attribute}
    (each : ∀ x ∈ xs, (sites x).map Site.record = (marks x).map (Attribute.record c.file)) :
    (xs.flatMap sites).map Site.record = (xs.flatMap marks).map (Attribute.record c.file) := by
  rw [List.map_flatMap, List.map_flatMap]
  exact List.flatMap_congr each

theorem records_fieldSites (host : Host) (n : Nat) (fs : List FieldDecl) :
    (fieldSites c host n fs).map Site.record = (Syntax.fieldMarks fs).map (Attribute.record c.file) := by
  induction fs generalizing n with
  | nil => rfl
  | cons f rest ih =>
    rw [fieldSites, List.map_append, records_sitesOf, ih, ← List.map_append]
    rfl

theorem records_variantFieldSites (variant : String) (n : Nat) (fs : List FieldDecl) :
    (variantFieldSites c variant n fs).map Site.record =
      (Syntax.fieldMarks fs).map (Attribute.record c.file) := by
  induction fs generalizing n with
  | nil => rfl
  | cons f rest ih =>
    rw [variantFieldSites, misplaced, List.map_append, records_sitesOf, ih, ← List.map_append]
    rfl

theorem records_itemSites (i : Item) :
    (itemSites crateName c i).map Site.record = i.partMarks.map (Attribute.record c.file) := by
  cases i with
  | struct d =>
    rw [itemSites, structSites, misplaced, List.map_append, records_sitesOf, records_fieldSites,
      ← List.map_append]
    rfl
  | enum as name vs =>
    have variants : (vs.flatMap (variantSites c name)).map Site.record =
        (Syntax.variantMarks vs).map (Attribute.record c.file) := by
      refine records_flatMap fun v _ => ?_
      rw [variantSites, List.map_append, misplaced, records_sitesOf, records_variantFieldSites,
        ← List.map_append]
    rw [itemSites, misplaced, List.map_append, records_sitesOf, variants, ← List.map_append]
    rfl
  | union as name fs =>
    have fields : (fs.flatMap (unionFieldSites c name)).map Site.record =
        (Syntax.fieldMarks fs).map (Attribute.record c.file) :=
      records_flatMap fun f _ => records_sitesOf c f.attributes _
    rw [itemSites, misplaced, List.map_append, records_sitesOf, fields, ← List.map_append]
    rfl
  | impl as owner ms | trait as owner ms =>
    have members (owner : String) : (ms.flatMap (memberSites c owner)).map Site.record =
        (Syntax.memberMarks ms).map (Attribute.record c.file) :=
      records_flatMap fun m _ => records_sitesOf c m.attributes _
    rw [itemSites, misplaced, List.map_append, records_sitesOf, members, ← List.map_append]
    rfl
  | mod d content => exact records_sitesOf c d.attributes _
  | simple kind as name => exact records_sitesOf c as _
  | shapeless => rfl

mutual

theorem records_itemOwn (c : ModuleContext) (i : Item) :
    (itemOwn crateName c i).map Site.record = i.marks.map (Attribute.record c.file) := by
  have parts (test : Bool) : (if test then [] else itemSites crateName c i).map Site.record =
      (if test then [] else i.partMarks).map (Attribute.record c.file) := by
    cases test with
    | true => rfl
    | false => exact records_itemSites i
  cases i with
  | mod d content =>
    cases content with
    | none => exact parts _
    | some is =>
      rw [itemOwn, Item.marks]
      split
      · rfl
      · rw [List.map_append, List.map_append, records_itemsOwn, file_inlineContext, records_itemSites]
        rfl
  | struct | enum | union | impl | trait | simple => exact parts _
  | shapeless => exact parts (isTestOnly [])

theorem records_itemsOwn (c : ModuleContext) (is : List Item) :
    (itemsOwn crateName c is).map Site.record =
      (Syntax.itemsMarks is).map (Attribute.record c.file) := by
  cases is with
  | nil => rfl
  | cons i rest =>
    rw [itemsOwn, Syntax.itemsMarks, List.map_append, List.map_append, records_itemOwn c i,
      records_itemsOwn c rest]

end

/-! ### All files of a scan -/

/-- A file that a scan has read, with the sites that it made for the file. -/
structure FileSites where
  path : Path
  sites : List Site

/-- There is one site for each mark of a file that can be parsed, and none for another file. -/
def FileSites.Complete (t : Tree) (v : FileSites) : Prop :=
  (∃ f, Holds t v.path f ∧ v.sites.map Site.record = f.marks.map (Attribute.record v.path)) ∨
    (∀ f, ¬Holds t v.path f) ∧ v.sites = []

/-- The findings are some sites and those of complete files, each part in its own order. -/
structure Made (t : Tree) (out : ScanOutput) (own : List Site) (others : List FileSites) : Prop where
  files : out.files = others.map (·.path)
  sites : out.sites.Perm (own ++ others.flatMap (·.sites))
  own_order : own.Sublist out.sites
  file_order : ∀ v ∈ others, v.sites.Sublist out.sites
  complete : ∀ v ∈ others, v.Complete t

/-- The scan of files makes the sites of these files and of files behind them. -/
def Recording (t : Tree) (file : FileScan) : Prop :=
  ∀ p c out, file p c = some out → ∃ others, Made t out [] others

theorem made_ofSites (t : Tree) (own : List Site) : Made t (.ofSites own) own [] :=
  ⟨rfl, by simp [ScanOutput.ofSites], .refl _, by simp, by simp⟩

theorem made_unavailable (t : Tree) (location : Location) (message : String) :
    Made t (.unavailable location message) [] [] :=
  ⟨rfl, by simp [ScanOutput.unavailable], List.nil_sublist _, by simp, by simp⟩

theorem Made.append {a b : ScanOutput} {own own' : List Site} {others others' : List FileSites}
    (first : Made t a own others) (second : Made t b own' others') :
    Made t (a ++ b) (own ++ own') (others ++ others') := by
  constructor
  · change a.files ++ b.files = _
    rw [first.files, second.files, List.map_append]
  · change (a.sites ++ b.sites).Perm _
    refine (first.sites.append second.sites).trans ?_
    rw [List.flatMap_append, List.append_assoc, List.append_assoc]
    refine List.Perm.append_left own ?_
    rw [← List.append_assoc, ← List.append_assoc]
    exact List.Perm.append_right _ List.perm_append_comm
  · exact first.own_order.append second.own_order
  · intro v member
    rcases List.mem_append.mp member with here | there
    · exact (first.file_order v here).trans (List.sublist_append_left _ _)
    · exact (second.file_order v there).trans (List.sublist_append_right _ _)
  · intro v member
    rcases List.mem_append.mp member with here | there
    · exact first.complete v here
    · exact second.complete v there

/-- The sites of a file come first, those of the files behind it after them. -/
theorem Made.inFile {p : Path} {out : ScanOutput} {own : List Site} {others : List FileSites}
    (made : Made t out own others) (complete : FileSites.Complete t ⟨p, own⟩) :
    Made t ({ files := [p] } ++ out) [] (⟨p, own⟩ :: others) := by
  constructor
  · change p :: out.files = _
    rw [made.files, List.map_cons]
  · exact made.sites
  · exact List.nil_sublist _
  · exact List.forall_mem_cons.mpr ⟨made.own_order, made.file_order⟩
  · exact List.forall_mem_cons.mpr ⟨complete, made.complete⟩

/-- The scan of a module in a file of its own adds nothing to the file with the declaration. -/
theorem fileModule_records (recording : Recording t file) {d : ModuleDecl} {out : ScanOutput}
    (scanned : fileModule t file c d = some out) : ∃ others, Made t out [] others := by
  rw [fileModule_eq] at scanned
  cases found : moduleFile? t c d with
  | none =>
    rw [found] at scanned
    obtain rfl := Option.some.inj scanned
    exact ⟨[], made_unavailable t _ _⟩
  | some place =>
    obtain ⟨p, inside⟩ := place
    rw [found] at scanned
    exact recording p inside out scanned

theorem plain_records {i : Item} {out : ScanOutput}
    (scanned : (if isTestOnly i.attributes then some {} else some (.ofSites (itemSites crateName c i))) =
      some out) :
    ∃ others, Made t out (if isTestOnly i.attributes then [] else itemSites crateName c i) others := by
  refine ⟨[], ?_⟩
  split at scanned
  · rename_i test
    obtain rfl := Option.some.inj scanned
    rw [if_pos test]
    exact made_ofSites t []
  · rename_i kept
    obtain rfl := Option.some.inj scanned
    rw [if_neg kept]
    exact made_ofSites t _

mutual

theorem item_records (recording : Recording t file) (c : ModuleContext) (i : Item) {out : ScanOutput}
    (scanned : item crateName t file c i = some out) :
    ∃ others, Made t out (itemOwn crateName c i) others := by
  cases i with
  | mod d content =>
    rw [item_mod] at scanned
    split at scanned
    · rename_i test
      obtain rfl := Option.some.inj scanned
      have own : itemOwn crateName c (.mod d content) = [] := by
        cases content <;> simp [itemOwn, Item.attributes, test]
      exact ⟨[], own ▸ made_ofSites t []⟩
    · rename_i kept
      obtain ⟨inside, scannedInside, rfl⟩ := Option.map_eq_some_iff.mp scanned
      have front := made_ofSites t (itemSites crateName c (.mod d content))
      cases content with
      | none =>
        obtain ⟨others, made⟩ := fileModule_records recording scannedInside
        have own : itemOwn crateName c (.mod d none) = itemSites crateName c (.mod d none) ++ [] := by
          simp [itemOwn, Item.attributes, kept]
        exact ⟨others, own ▸ front.append made⟩
      | some is =>
        obtain ⟨others, made⟩ := items_records recording (inlineContext c d) is scannedInside
        have own : itemOwn crateName c (.mod d (some is)) =
            itemSites crateName c (.mod d none) ++ itemsOwn crateName (inlineContext c d) is := by
          rw [itemOwn, if_neg kept]
        exact ⟨others, own ▸ front.append made⟩
  | struct | enum | union | impl | trait | simple =>
    rw [item] at scanned
    · exact plain_records scanned
    · rintro _ _ ⟨⟩
  | shapeless =>
    rw [item] at scanned
    · exact plain_records (i := .shapeless) scanned
    · rintro _ _ ⟨⟩

theorem items_records (recording : Recording t file) (c : ModuleContext) (is : List Item)
    {out : ScanOutput} (scanned : items crateName t file c is = some out) :
    ∃ others, Made t out (itemsOwn crateName c is) others := by
  cases is with
  | nil =>
    rw [items] at scanned
    obtain rfl := Option.some.inj scanned
    exact ⟨[], made_ofSites t []⟩
  | cons i rest =>
    rw [items] at scanned
    obtain ⟨first, scannedFirst, others⟩ := Option.bind_eq_some_iff.mp scanned
    obtain ⟨later, scannedLater, sum⟩ := Option.bind_eq_some_iff.mp others
    obtain rfl := Option.some.inj sum
    obtain ⟨firstFiles, firstMade⟩ := item_records recording c i scannedFirst
    obtain ⟨laterFiles, laterMade⟩ := items_records recording c rest scannedLater
    exact ⟨firstFiles ++ laterFiles, firstMade.append laterMade⟩

end

/-- The scan of a text makes the sites of its items, and those of files behind it. -/
theorem source_records (recording : Recording t file) {text : String} {f : SourceFile}
    (parsed : Grammar.sourceFile text = .ok f) {out : ScanOutput}
    (scanned : source crateName t file c text = some out) :
    ∃ own others, Made t out own others ∧
      own.map Site.record = f.marks.map (Attribute.record c.file) := by
  rw [source, parsed] at scanned
  obtain ⟨others, made⟩ := items_records recording _ f.items scanned
  exact ⟨_, others, made, records_itemsOwn _ f.items⟩

theorem sourceFile_of_holds {p : Path} {text : String} {f : SourceFile} (holds : Holds t p f)
    (read : t.read p = .ok text) : Grammar.sourceFile text = .ok f := by
  obtain ⟨other, readOther, parsed⟩ := holds
  rw [read] at readOther
  cases readOther
  exact parsed

theorem complete_of_unparsed {p : Path} {text : String} {e : SyntaxError} (read : t.read p = .ok text)
    (unparsed : Grammar.sourceFile text = .error e) : FileSites.Complete t ⟨p, []⟩ := by
  refine Or.inr ⟨fun f holds => ?_, rfl⟩
  have parsed := sourceFile_of_holds holds read
  rw [unparsed] at parsed
  cases parsed

theorem file_records (crateName : String) (t : Tree) (n : Nat) :
    Recording t (Scan.file crateName t n) := by
  -- What lies in files of their own is scanned with one level less.
  induction n with
  | zero =>
    intro p c out scanned
    cases scanned
  | succ n ih =>
    intro p c out scanned
    rw [Scan.file] at scanned
    split at scanned
    · obtain rfl := Option.some.inj scanned
      exact ⟨[], made_unavailable t _ _⟩
    · rename_i text read
      obtain ⟨inside, scannedInside, rest⟩ := Option.bind_eq_some_iff.mp scanned
      obtain rfl := Option.some.inj rest
      cases outcome : Grammar.sourceFile text with
      | error e =>
        rw [source, outcome] at scannedInside
        obtain rfl := Option.some.inj scannedInside
        exact ⟨_, (made_unavailable t _ _).inFile (complete_of_unparsed read outcome)⟩
      | ok f =>
        obtain ⟨own, others, made, records⟩ := source_records ih outcome scannedInside
        exact ⟨_, made.inFile (Or.inl ⟨f, ⟨text, read, outcome⟩, records⟩)⟩

end Scan

namespace Grammar

variable {text : String} {f : SourceFile}

theorem sublist_fileDrawn (f : SourceFile) : (f.marks.map (·.start)).Sublist (fileDrawn f).marks :=
  (Syntax.map_start_itemsMarks f.items).trans (List.sublist_append_right _ _)

theorem ascending_marks (parsed : sourceFile text = .ok f) :
    (f.marks.map (·.start)).Pairwise Position.Before :=
  (ascending_of_sourceFile parsed).sublist (sublist_fileDrawn f)

theorem marks_of_tokens (parsed : sourceFile text = .ok f) :
    ∃ ts, fileTokens? text = some ts ∧
      (f.marks.map (·.start)).Sublist (Token.drawnAll ts).marks := by
  obtain ⟨ts, read, drawn⟩ := sourceFile_drawn parsed
  exact ⟨ts, read, (sublist_fileDrawn f).trans drawn.1⟩

end Grammar

/-- A scan makes its sites file by file. Each time that it reads a file which can be parsed, it makes one site
for each mark of the file, with the place and the slot of the mark, in the order of the marks. -/
theorem scanCrate_records {levels : Nat} {t : Tree} {crateName : String} {root : Path} {out : ScanOutput}
    (scanned : scanCrate levels t crateName root = some out) :
    ∃ files : List Scan.FileSites,
      out.files = files.map (·.path) ∧ out.sites.Perm (files.flatMap (·.sites)) ∧
      ∀ v ∈ files,
        v.sites.Sublist out.sites ∧
        (∀ text f, t.read v.path = .ok text → Grammar.sourceFile text = .ok f →
          v.sites.map Site.record = f.marks.map (Attribute.record v.path) ∧
          (f.marks.map (·.start)).Pairwise Position.Before ∧
          ∃ ts, Grammar.fileTokens? text = some ts ∧
            (f.marks.map (·.start)).Sublist (Token.drawnAll ts).marks) ∧
        ((∀ f, ¬Scan.Holds t v.path f) → v.sites = []) := by
  obtain ⟨files, made⟩ := Scan.file_records _ t levels root _ out scanned
  refine ⟨files, made.files, by simpa using made.sites, fun v member => ?_⟩
  refine ⟨made.file_order v member, ?_, ?_⟩
  · intro text f read parsed
    refine ⟨?_, Grammar.ascending_marks parsed, Grammar.marks_of_tokens parsed⟩
    rcases made.complete v member with ⟨g, holds, records⟩ | ⟨none, -⟩
    · have same := Scan.sourceFile_of_holds holds read
      rw [parsed] at same
      cases same
      exact records
    · exact absurd ⟨text, read, parsed⟩ (none f)
  · intro unparsed
    rcases made.complete v member with ⟨g, holds, -⟩ | ⟨-, nothing⟩
    · exact absurd holds (unparsed g)
    · exact nothing

theorem scanCrate_records_of_two :
    let t := Tree.ofList
      [("src/lib.rs", .file (.text "mod a; pub struct H \x7b #[bind(1)] pub x: L \x7d")),
        ("src/a.rs", .file (.text "#[bind(2)] fn f() \x7b\x7d"))]
    ∃ out, scanCrate 2 t "app" "src/lib.rs" = some out ∧
      out.sites.map Site.record =
        [(⟨"src/a.rs", 1, 0⟩, .id 2), (⟨"src/lib.rs", 1, 22⟩, .id 1)] ∧
      ∃ files : List Scan.FileSites,
        out.files = files.map (·.path) ∧ out.sites.Perm (files.flatMap (·.sites)) ∧
        ∀ v ∈ files, v.sites.Sublist out.sites ∧
          ∀ text f, t.read v.path = .ok text → Grammar.sourceFile text = .ok f →
            v.sites.map Site.record = f.marks.map (Attribute.record v.path) := by
  intro t
  have scanned : (scanCrate 2 t "app" "src/lib.rs").any (fun out =>
      out.sites.map Site.record =
        [(⟨"src/a.rs", 1, 0⟩, .id 2), (⟨"src/lib.rs", 1, 22⟩, .id 1)]) = true := by
    decide +kernel
  obtain ⟨out, found, records⟩ := (Option.any_eq_true _ _).mp scanned
  obtain ⟨files, paths, sites, each⟩ := scanCrate_records found
  refine ⟨out, found, of_decide_eq_true records, files, paths, sites, fun v member => ?_⟩
  obtain ⟨order, parsed, -⟩ := each v member
  exact ⟨order, fun text f read holds => (parsed text f read holds).1⟩

/-- A scan of one text makes one site for each mark of the text, in the order of the marks. -/
theorem scanSource_records {levels : Nat} {t : Tree} {crateName : String} {modulePath : List String}
    {file text : String} {f : SourceFile} (parsed : Grammar.sourceFile text = .ok f) {out : ScanOutput}
    (scanned : scanSource levels t crateName modulePath file text = some out) :
    ∃ own others, Scan.Made t out own others ∧
      own.map Site.record = f.marks.map (Attribute.record file) :=
  Scan.source_records (Scan.file_records _ t levels) parsed scanned

def missesMark (text : String) : Bool :=
  (Grammar.sourceFile text).toOption.isSome &&
  (Grammar.fileTokens? text).any (fun ts => (Token.drawnAll ts).marks.length = 1) &&
  (scanCrate 1 (Tree.ofList [("src/lib.rs", .file (.text text))]) "app" "src/lib.rs").any
    (fun out => out.sites.isEmpty)

/-- Marks in an extern block, in the body of a function, on a function without a body and at the front of a
file. -/
theorem scanCrate_misses_marks :
    missesMark "extern \"C\" \x7b #[bind(1)] fn g(); \x7d" ∧
    missesMark "fn f() \x7b struct S \x7b #[bind(1)] x: L \x7d \x7d" ∧
    missesMark "#[bind(1)] fn g();" ∧ missesMark "#![bind(1)]" := by
  decide +kernel

end SlotBinding
