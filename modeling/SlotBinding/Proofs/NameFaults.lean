import SlotBinding.Generation.BuildScript
import SlotBinding.Proofs.FieldDeclaration
import SlotBinding.Proofs.Names
import SlotBinding.Proofs.TokenOrder
import SlotBinding.Proofs.Writing

/-!
# Names that stop a run

The names of modules and structs come from the source and always make identifiers, the name of a crate may be
any text. `generation_concludes_iff` says which crate names stop a build before it has a report or an error.
-/

namespace SlotBinding

open Syntax (Item SourceFile StructDecl)
open Files (Path Tree)

namespace Identifier

open Unicode (isWord isIdentifierContinue)

def bare (s : String) : String := (behindMark? s).getD s

theorem plain_ok_iff (s : String) : (∃ x, plain s = .ok x) ↔ isWord s.toList = true := by
  simp [plain_eq_ok_iff]

theorem raw_ok_iff (s : String) :
    (∃ x, raw s = .ok x) ↔ isWord s.toList = true ∧ s.toList ∉ Spelling.neverRaw := by
  simp [raw_eq_ok_iff]

structure Segment (s : String) : Prop where
  word : isWord s.toList = true
  allowed : s.toList ∉ Spelling.neverRaw

theorem ofSegment_ok {s : String} (segment : Segment s) : ∃ x, ofSegment s = .ok x := by
  unfold ofSegment
  cases spelled? s with
  | some w => exact ⟨w, rfl⟩
  | none => exact (raw_ok_iff s).mpr ⟨segment.word, segment.allowed⟩

theorem canName_of_neverRaw {w : String} (never : w.toList ∈ Spelling.neverRaw) :
    Token.canName w = false := by
  have words : ∀ cs ∈ Spelling.neverRaw, Token.canName (String.ofList cs) = false := by decide
  simpa using words w.toList never

theorem segment_plainName {w : String} (spelled : Spelled w) (name : Token.canName w = true) :
    Segment (plainName w) := by
  rcases spelled with word | ⟨rest, marked, word, allowed⟩
  · rw [plainName_of_isWord word]
    refine ⟨word, fun never => ?_⟩
    rw [canName_of_neverRaw never] at name
    cases name
  · have text : (plainName w).toList = rest := by simp [plainName, marked]
    exact ⟨text ▸ word, text ▸ allowed⟩

theorem isWord_append_iff {rest : List Char} (more : rest.all isIdentifierContinue = true)
    (cs : List Char) : isWord (cs ++ '_' :: rest) = true ↔ isWord (cs ++ ['_']) = true := by
  have underscore : isIdentifierContinue '_' = true := by decide
  cases cs with
  | nil =>
    have start : Unicode.isIdentifierStart '_' = true := by decide
    simp [isWord, start, more]
  | cons c cs => simp [isWord, more, underscore]

theorem behindMark?_append {s tail : String} {rest : List Char} (behind : tail.toList = '_' :: rest) :
    behindMark? (s ++ tail) = (behindMark? s).map (· ++ tail) := by
  ext found
  rw [behindMark?_eq_some_iff, String.toList_append, Option.map_eq_some_iff]
  constructor
  · intro marked
    -- The mark cannot reach into what starts with an underscore.
    match chars : s.toList with
    | [] => simp [chars, behind] at marked
    | [c] => simp [chars, behind] at marked
    | a :: b :: more =>
      rw [chars] at marked
      obtain ⟨rfl, rfl, ends⟩ : a = 'r' ∧ b = '#' ∧ more ++ tail.toList = found.toList := by
        simpa using marked
      refine ⟨String.ofList more, behindMark?_eq_some_iff.mpr (by simp [chars]), ?_⟩
      apply String.toList_inj.mp
      simpa using ends
  · rintro ⟨inner, marked, rfl⟩
    rw [behindMark?_eq_some_iff.mp marked, String.toList_append]
    rfl

/-- A text with enough behind it is an identifier if an underscore behind it makes a word of it. -/
theorem ofText_append_ok_iff {s tail : String} {rest : List Char} (behind : tail.toList = '_' :: rest)
    (more : rest.all isIdentifierContinue = true) (long : 5 < tail.length) :
    (∃ x, ofText (s ++ tail) = .ok x) ↔ isWord ((bare s).toList ++ ['_']) = true := by
  have leads (front : String) :
      isWord (front ++ tail).toList = true ↔ isWord (front.toList ++ ['_']) = true := by
    rw [String.toList_append, behind]
    exact isWord_append_iff more front.toList
  unfold ofText bare
  rw [behindMark?_append behind]
  cases behindMark? s with
  | none =>
    dsimp only [Option.map_none, Option.getD_none]
    rw [plain_ok_iff, leads]
  | some inner =>
    dsimp only [Option.map_some, Option.getD_some]
    have allowed : (inner ++ tail).toList ∉ Spelling.neverRaw := by
      have short : ∀ cs ∈ Spelling.neverRaw, cs.length ≤ 5 := by decide
      intro never
      have bound := short _ never
      simp only [String.toList_append, List.length_append, String.length_toList] at bound
      omega
    rw [raw_ok_iff, leads]
    exact and_iff_left allowed

end Identifier

namespace HostModel

open Identifier (Segment bare)

/-- The name of the crate, without marks, can be the front of an identifier. A mark that is left when the
first one is gone makes the identifier raw. -/
def CanLead (crateName : String) : Prop :=
  Unicode.isWord ((bare (bare crateName)).toList ++ ['_']) = true

instance (crateName : String) : Decidable (CanLead crateName) :=
  inferInstanceAs (Decidable (_ = _))

theorem binderIdent_ok_iff {m : HostModel} (words : Words m.localSegments) :
    (∃ x, m.binderIdent = .ok x) ↔ CanLead m.crateName := by
  let tail := "__" ++ joined m.localSegments ++ "__Bind"
  let rest := '_' :: ((joined m.localSegments).toList ++ "__Bind".toList)
  have behind : tail.toList = '_' :: rest := by simp [tail, rest]
  have more : rest.all Unicode.isIdentifierContinue = true := by
    rw [List.all_cons, List.all_append, all_joined words]
    decide
  have long : 5 < tail.length := by
    have six : "__Bind".length = 6 := by decide
    simp only [tail, String.length_append]
    omega
  have text : m.mangledName ++ "__Bind" = bare m.crateName ++ tail := by
    apply String.toList_inj.mp
    simp [mangledName_of_words words, tail, bare]
  rw [binderIdent, text]
  exact Identifier.ofText_append_ok_iff behind more long

theorem typePath_ok {m : HostModel} (segments : ∀ s ∈ m.localSegments, Segment s) :
    ∃ x, m.typePath = .ok x := by
  obtain ⟨xs, made⟩ := exists_mapM_ok fun s member => Identifier.ofSegment_ok (segments s member)
  unfold typePath pathSegments
  rw [show m.modulePath ++ [m.name] = m.localSegments from rfl, made]
  exact ⟨_, rfl⟩

end HostModel

/-! ### Runs -/

namespace Generator

open Identifier (Segment)
open HostModel (CanLead)

variable {σ : Type u} {g : Generator} {k : Sink σ}

theorem artifact_ok_iff {m : HostModel} (segments : ∀ s ∈ m.localSegments, Segment s) :
    (∃ made, g.artifact m = .ok made) ↔ CanLead m.crateName := by
  rw [← HostModel.binderIdent_ok_iff fun s member => (segments s member).word]
  constructor
  · rintro ⟨⟨text, file⟩, made⟩
    obtain ⟨x, ident, -⟩ := HostModel.artifactPath_ok (artifact_ok made).2
    exact ⟨x, ident⟩
  · rintro ⟨x, ident⟩
    obtain ⟨path, typed⟩ := HostModel.typePath_ok segments
    unfold artifact Renderer.binder
    rw [ident, typed, HostModel.artifactPath_of_binderIdent ident]
    exact ⟨_, rfl⟩

theorem writeModels_ok_iff {ms : List HostModel} {s : σ} :
    (∃ log t, g.writeModels k ms s = (.ok log, t)) ↔ ∀ m ∈ ms, ∃ made, g.artifact m = .ok made := by
  constructor
  · rintro ⟨log, t, wrote⟩ m member
    obtain ⟨cs, models, creates, -⟩ := writeModels_ok wrote
    obtain ⟨c, among, rfl⟩ := List.mem_map.mp (models ▸ member)
    exact ⟨_, creates_made creates c among⟩
  · intro each
    induction ms generalizing s with
    | nil => exact ⟨{}, s, rfl⟩
    | cons m rest ih =>
      obtain ⟨⟨text, file⟩, made⟩ := each m List.mem_cons_self
      obtain ⟨log, t, wrote⟩ := ih (s := (k.create s file text).1) fun m' member =>
        each m' (List.mem_cons_of_mem _ member)
      rw [writeModels, made]
      dsimp only
      rw [wrote]
      exact ⟨_, t, rfl⟩

theorem table_ok {r : Renderer} {ms : List HostModel} (idents : ∀ m ∈ ms, ∃ x, m.binderIdent = .ok x) :
    ∃ text, r.table ms = .ok text := by
  have part : ∀ m ∈ ms, ∃ p, Renderer.tablePart m = .ok p := by
    intro m member
    obtain ⟨x, ident⟩ := idents m member
    unfold Renderer.tablePart
    rw [HostModel.artifactPath_of_binderIdent ident, ident]
    exact ⟨_, rfl⟩
  obtain ⟨parts, made⟩ := exists_mapM_ok part
  unfold Renderer.table
  rw [made]
  exact ⟨_, rfl⟩

/-- The table names only hosts that were written, so that its text never fails. -/
theorem writeTable_of_writeModels {ms : List HostModel} {s t : σ} {log : WriteLog}
    (wrote : g.writeModels k ms s = (.ok log, t)) :
    ∃ text, g.renderer.table log.written = .ok text ∧
      g.writeTable k log.written t =
        (.ok (k.create t tableFile text).2, (k.create t tableFile text).1) := by
  obtain ⟨cs, -, creates, rfl⟩ := writeModels_ok wrote
  have idents : ∀ m ∈ (WriteLog.ofCreations cs).written, ∃ x, m.binderIdent = .ok x := by
    intro m member
    rw [ofCreations_eq] at member
    obtain ⟨c, written, rfl⟩ := List.mem_map.mp member
    have made := creates_made creates c (List.mem_filter.mp written).1
    obtain ⟨x, ident, -⟩ := HostModel.artifactPath_ok (artifact_ok made).2
    exact ⟨x, ident⟩
  obtain ⟨text, table⟩ := table_ok (r := g.renderer) idents
  refine ⟨text, table, ?_⟩
  rw [writeTable, table]

/-- A pass comes to its end if all hosts have an artifact. -/
theorem runPass_ok_iff {sites : List Site} {s : σ} :
    (∃ r t, g.runPass sites k s = (.ok r, t)) ↔
      ∀ m ∈ (g.group sites).models.values, ∃ made, g.artifact m = .ok made := by
  rw [← writeModels_ok_iff (k := k) (s := s)]
  constructor
  · rintro ⟨r, t, ran⟩
    unfold runPass at ran
    dsimp only at ran
    split at ran
    · cases (Prod.mk.inj ran).1
    · rename_i log middle wrote
      exact ⟨log, middle, wrote⟩
  · rintro ⟨log, middle, wrote⟩
    obtain ⟨text, -, asks⟩ := writeTable_of_writeModels wrote
    unfold runPass
    dsimp only
    rw [wrote]
    dsimp only
    rw [asks]
    exact ⟨_, _, rfl⟩

end Generator

/-! ### The hosts of a crate -/

namespace Scan

open Identifier (Segment)

variable {t : Tree} {c c' : ModuleContext} {is is' : List Item}

/-- The names of all structs and modules among some items are words that have a raw form. -/
def Segments (is : List Item) : Prop := ∀ w ∈ (Syntax.itemsDrawn is).names, Segment (plainName w)

theorem segments_of_holds {p : Path} {f : SourceFile} (holds : Holds t p f) : Segments f.items := by
  obtain ⟨text, -, parsed⟩ := holds
  intro w member
  obtain ⟨spelled, name⟩ := Grammar.spelled_of_sourceFile parsed w (List.mem_append_right _ member)
  exact Identifier.segment_plainName spelled name

/-- The names of the modules on a way and those among the items at its end come from parsed files. -/
theorem segments_within {levels : List Level} (way : Within t c is levels c' is') (names : Segments is) :
    (∀ l ∈ levels, Segment (plainName l.decl.name)) ∧ Segments is' := by
  induction way with
  | here => exact ⟨by simp, names⟩
  | @inside c c' c'' is is' is'' l levels content among kept opens deeper ih =>
    have own : Segment (plainName l.decl.name) := by
      apply names l.decl.name (Syntax.names_of_mem among _)
      cases content <;> simp [Syntax.Item.drawn]
    have next : Segments is' := by
      cases opens with
      | inline d is' =>
        intro w member
        apply names w (Syntax.names_of_mem among _)
        simp [Syntax.Item.drawn, member]
      | file found holds => exact segments_of_holds holds
    obtain ⟨behind, last⟩ := ih next
    refine ⟨fun l' member => ?_, last⟩
    rcases List.mem_cons.mp member with rfl | later
    · exact own
    · exact behind l' later

end Scan

theorem FieldDeclaration.segments {t : Tree} {root : Path} (d : FieldDeclaration t root) (crateName : String) :
    ∀ s ∈ (HostModel.ofHost (Scan.hostOf crateName d.context d.decl)).localSegments, Identifier.Segment s := by
  obtain ⟨modules, items⟩ := Scan.segments_within d.way (Scan.segments_of_holds d.holds)
  have path : d.context.path = d.levels.map fun l => plainName l.decl.name := Scan.path_within d.way
  intro s member
  rcases List.mem_append.mp member with above | own
  · have above : s ∈ d.context.path := above
    rw [path] at above
    obtain ⟨l, among, rfl⟩ := List.mem_map.mp above
    exact modules l among
  · obtain rfl : s = plainName d.decl.name := List.mem_singleton.mp own
    apply items d.decl.name (Syntax.names_of_mem d.among _)
    simp [Syntax.Item.drawn]

theorem FieldDeclaration.segments_of_header {t : Tree} {root : Path} (d : FieldDeclaration t root)
    {crateName : String} {m : HostModel}
    (header : m.header = .ofHost (Scan.hostOf crateName d.context d.decl)) :
    ∀ s ∈ m.localSegments, Identifier.Segment s := by
  have names : m.header.localSegments = _ := congrArg HostModel.localSegments header
  show ∀ s ∈ m.header.localSegments, Identifier.Segment s
  rw [names]
  exact d.segments crateName

namespace Generator

open HostModel (CanLead)

variable {g : Generator} {levels : Nat} {t : Tree} {crateName : String} {root : Path} {out : ScanOutput}

theorem exists_declaration (scanned : scanCrate levels t crateName root = some out) {m : HostModel}
    (member : m ∈ (g.group out.sites).models.values) :
    ∃ d : FieldDeclaration t root,
      m.header = .ofHost (Scan.hostOf (Scan.pathCrateName crateName) d.context d.decl) := by
  obtain ⟨v, valid, -, header⟩ := Grouping.exists_host_of_mem member
  obtain ⟨d, gives⟩ := exists_fieldDeclaration scanned valid
  rw [FieldDeclaration.host_of_gives gives] at header
  exact ⟨d, header⟩

/-- A host of a scanned crate has an artifact if the name of the crate can lead an identifier. -/
theorem artifact_of_scan (scanned : scanCrate levels t crateName root = some out) {m : HostModel}
    (member : m ∈ (g.group out.sites).models.values) :
    (∃ made, g.artifact m = .ok made) ↔ CanLead (Scan.pathCrateName crateName) := by
  obtain ⟨d, header⟩ := exists_declaration scanned member
  have crate : m.crateName = Scan.pathCrateName crateName := congrArg HostModel.crateName header
  rw [artifact_ok_iff (d.segments_of_header header), crate]

theorem runPass_of_scan {σ : Type} {k : Sink σ} {s : σ}
    (scanned : scanCrate levels t crateName root = some out) :
    (∃ r t, g.runPass out.sites k s = (.ok r, t)) ↔
      CanLead (Scan.pathCrateName crateName) ∨ ∀ site ∈ out.sites, site.valid? = none := by
  rw [runPass_ok_iff]
  constructor
  · intro each
    refine or_iff_not_imp_right.mpr fun someValid => ?_
    push Not at someValid
    obtain ⟨site, among, valid⟩ := someValid
    obtain ⟨v, valid⟩ := Option.ne_none_iff_exists'.mp valid
    have listed : v ∈ out.sites.filterMap (·.valid?) := List.mem_filterMap.mpr ⟨site, among, valid⟩
    obtain ⟨m, found⟩ := Grouping.exists_get?_of_mem g.config.duplicateSlots listed
    have member : m ∈ (g.group out.sites).models.values := Grouping.mem_values_of_get? found
    exact (artifact_of_scan scanned member).mp (each m member)
  · rintro (leads | nothing) m member
    · exact (artifact_of_scan scanned member).mpr leads
    · obtain ⟨v, valid, -⟩ := Grouping.exists_host_of_mem member
      obtain ⟨site, among, valid⟩ := List.mem_filterMap.mp valid
      rw [nothing site among] at valid
      cases valid

end Generator

/-! ### Whole builds -/

/-- A build step ends with a report or with an error. -/
def Concludes (result : Except BuildStop Report) : Prop :=
  (∃ r, result = .ok r) ∨ ∃ cause, result = .error (.error cause)

/-- Where a crate has a root file and a runtime, its scan ends, and it finds no valid site unless the name of the
crate can lead an identifier. -/
def Config.Suits (c : Config) (levels : Nat) (t : Tree) (manifestDir : Path) : Prop :=
  ∀ root g, crateRoot t manifestDir = .ok root → Generator.ofConfig c = .ok g →
    ∃ out, scanCrate levels t c.crateName root = some out ∧
      (HostModel.CanLead (Scan.pathCrateName c.crateName) ∨ ∀ site ∈ out.sites, site.valid? = none)

section

variable {levels : Nat} {c : Config} {t : Tree} {manifestDir outDir : Path}

theorem generateWithin_of_scan {root : Path} {g : Generator} {out : ScanOutput}
    (start : crateRoot t manifestDir = .ok root) (made : Generator.ofConfig c = .ok g)
    (scanned : scanCrate levels t c.crateName root = some out) :
    Concludes (generateWithin levels c t manifestDir outDir).1 ↔
      HostModel.CanLead (Scan.pathCrateName c.crateName) ∨ ∀ site ∈ out.sites, site.valid? = none := by
  rw [← Generator.runPass_of_scan (g := g) (k := DirectorySink.sink)
    (s := DirectorySink.fresh outDir t) scanned]
  unfold generateWithin
  rw [start, made]
  dsimp only
  rw [scanned]
  dsimp only
  obtain ⟨report, s⟩ := g.runPass out.sites DirectorySink.sink (DirectorySink.fresh outDir t)
  cases report with
  | error f => simp [Concludes]
  | ok pass => simp [Concludes]

theorem generateWithin_concludes_iff :
    Concludes (generateWithin levels c t manifestDir outDir).1 ↔ c.Suits levels t manifestDir := by
  constructor
  · intro concludes root g start made
    cases scanned : scanCrate levels t c.crateName root with
    | none => simp [generateWithin, start, made, scanned, Concludes] at concludes
    | some out => exact ⟨out, rfl, (generateWithin_of_scan start made scanned).mp concludes⟩
  · intro suits
    cases start : crateRoot t manifestDir with
    | error cause => simp [generateWithin, start, Concludes]
    | ok root =>
      cases made : Generator.ofConfig c with
      | error cause => simp [generateWithin, start, made, Concludes]
      | ok g =>
        obtain ⟨out, scanned, ends⟩ := suits root g start made
        exact (generateWithin_of_scan start made scanned).mpr ends

theorem concludes_verdict (failOnError : Bool) (r : Report) :
    Concludes (ScriptRun.verdict failOnError r) := by
  unfold ScriptRun.verdict
  split
  · exact Or.inr ⟨_, rfl⟩
  · exact Or.inl ⟨r, rfl⟩

theorem runBuildScriptIn_concludes_iff {e : Environment} :
    Concludes (runBuildScriptIn e t manifestDir outDir).result ↔
      ∀ c, Config.ofEnvironment e = .ok c → c.Suits (levelsFor t) t manifestDir := by
  unfold runBuildScriptIn
  cases Config.ofEnvironment e with
  | error cause => simp [Concludes]
  | ok c =>
    have inner : Concludes (generate c t manifestDir outDir).1 ↔ c.Suits (levelsFor t) t manifestDir :=
      generateWithin_concludes_iff
    simp only [Except.ok.injEq, forall_eq']
    rw [← inner]
    obtain ⟨result, after⟩ := generate c t manifestDir outDir
    cases result with
    | error stop => rfl
    | ok r => exact iff_of_true (concludes_verdict _ r) (Or.inl ⟨r, rfl⟩)

end

/-- Generation and the build script end with a report or an error exactly where the configuration suits the
crate. No name can stop them but that of the crate: those of modules and structs are words of the source. -/
theorem generation_concludes_iff (t : Tree) (manifestDir outDir : Path) :
    (∀ levels (c : Config),
      Concludes (generateWithin levels c t manifestDir outDir).1 ↔ c.Suits levels t manifestDir) ∧
    (∀ c : Config,
      Concludes (generate c t manifestDir outDir).1 ↔ c.Suits (levelsFor t) t manifestDir) ∧
    ∀ e : Environment, Concludes (runBuildScriptIn e t manifestDir outDir).result ↔
      ∀ c, Config.ofEnvironment e = .ok c → c.Suits (levelsFor t) t manifestDir :=
  ⟨fun _ _ => generateWithin_concludes_iff, fun _ => generateWithin_concludes_iff,
    fun _ => runBuildScriptIn_concludes_iff⟩

/-- A crate whose name starts with a digit. The scan ends, and the identifier of the binder stops the build. -/
theorem build_stops_at_crate_name :
    let e := Environment.ofList
      [("CARGO_PKG_NAME", .text "app"), ("VIEWBIND_CRATE_NAME", .text "2d-map")]
    let t := Tree.ofList [("src/lib.rs", .file (.text "pub struct H \x7b #[bind(1)] pub x: L \x7d"))]
    (runBuildScriptIn e t "." "out").result = .error (.name (.invalid "2d_map__H__Bind")) ∧
      ¬Concludes (runBuildScriptIn e t "." "out").result := by
  intro e t
  have stops : (match (runBuildScriptIn e t "." "out").result with
      | .error stop => decide (stop = .name (.invalid "2d_map__H__Bind"))
      | .ok _ => false) = true := by
    decide +kernel
  have result : (runBuildScriptIn e t "." "out").result = .error (.name (.invalid "2d_map__H__Bind")) := by
    split at stops
    · rename_i stop came
      rw [came, of_decide_eq_true stops]
    · cases stops
  refine ⟨result, ?_⟩
  simp [result, Concludes]

end SlotBinding
