import SlotBinding.Proofs.PathOrigin
import SlotBinding.Proofs.Verdict

/-!
# The lines that a build script prints

A build script prints texts, and a text with line ends is read as several lines.
`runBuildScriptIn_prints_lines`: every line is a directive, one for each variable, file and diagnostic, exactly
where no path of a file that was read has a line end. Nothing else that comes from a source adds a line.
-/

namespace SlotBinding

open Files (Path Tree)

/-! ### Lines and directives -/

namespace Text

def lines (s : String) : List String := (s.toList.splitOn '\n').map String.ofList

theorem lines_of_not_mem {s : String} (one : '\n' ∉ s.toList) : lines s = [s] := by
  rw [lines, List.splitOn_eq_singleton one, List.map_singleton, String.ofList_toList]

theorem flatMap_lines {texts : List String} (single : ∀ s ∈ texts, '\n' ∉ s.toList) :
    texts.flatMap lines = texts := by
  rw [List.flatMap_congr fun s member => lines_of_not_mem (single s member)]
  exact List.flatMap_singleton' texts

theorem length_splitOn {α : Type u} [DecidableEq α] (c : α) (cs : List α) :
    (cs.splitOn c).length = cs.count c + 1 := by
  induction cs with
  | nil => rfl
  | cons d rest ih =>
    rw [List.splitOn_cons_eq_if_modifyHead, List.count_cons]
    split <;> simp [ih]

theorem length_lines (s : String) : (lines s).length = s.toList.count '\n' + 1 := by
  rw [lines, List.length_map, length_splitOn]

theorem splitOn_append_of_not_mem {α : Type u} [DecidableEq α] {c : α} {front : List α} (one : c ∉ front)
    (cs : List α) :
    ∃ first rest, cs.splitOn c = first :: rest ∧ (front ++ cs).splitOn c = (front ++ first) :: rest := by
  obtain ⟨first, rest, split⟩ := List.exists_cons_of_ne_nil (List.splitOn_ne_nil c cs)
  refine ⟨first, rest, split, ?_⟩
  induction front with
  | nil => exact split
  | cons d front ih =>
    rw [List.mem_cons, not_or] at one
    rw [List.cons_append, List.splitOn_cons_eq_if_modifyHead, if_neg (by simpa using Ne.symm one.1), ih one.2]
    rfl

theorem lines_append {front : String} (one : '\n' ∉ front.toList) (s : String) :
    ∃ first rest, lines s = first :: rest ∧ lines (front ++ s) = (front ++ first) :: rest := by
  obtain ⟨first, rest, split, joined⟩ := splitOn_append_of_not_mem one s.toList
  refine ⟨String.ofList first, rest.map String.ofList, by rw [lines, split, List.map_cons], ?_⟩
  rw [lines, String.toList_append, joined, List.map_cons, String.ofList_append, String.ofList_toList]

theorem splitOn_flatMap (texts : List String) :
    (texts.flatMap fun text => text.toList ++ ['\n']).splitOn '\n' =
      texts.flatMap (fun text => text.toList.splitOn '\n') ++ [[]] := by
  induction texts with
  | nil => rfl
  | cons text rest ih =>
    rw [List.flatMap_cons, List.flatMap_cons, List.append_assoc, List.append_assoc, List.singleton_append,
      List.splitOn_append_cons_self, ih]

end Text

namespace ScriptRun

def output (run : ScriptRun) : List Char := run.printed.flatMap fun text => text.toList ++ ['\n']

/-- The lines that were printed. Behind the last line end there is none. -/
def lines (run : ScriptRun) : List String := ((run.output.splitOn '\n').map String.ofList).dropLast

theorem lines_eq (run : ScriptRun) : run.lines = run.printed.flatMap Text.lines := by
  rw [lines, output, Text.splitOn_flatMap, List.map_append, List.map_singleton, List.dropLast_concat,
    List.map_flatMap]
  rfl

end ScriptRun

namespace Directive

def IsDirective (line : String) : Prop := "cargo::".toList <+: line.toList

instance (line : String) : Decidable (IsDirective line) := inferInstanceAs (Decidable (_ <+: _))

theorem isDirective_append {front : String} (begins : IsDirective front) (s : String) : IsDirective (front ++ s) := by
  rw [IsDirective, String.toList_append]
  exact begins.trans (List.prefix_append _ _)

def fileFront : String := "cargo::rerun-if-changed="

theorem isDirective_rerunIfVariableChanged (name : String) : IsDirective (rerunIfVariableChanged name) :=
  isDirective_append (by decide +kernel) name

theorem isDirective_display (failOnError : Bool) (d : Diagnostic) : IsDirective (display failOnError d) := by
  unfold display
  rw [String.append_assoc, String.append_assoc]
  exact isDirective_append (by decide +kernel) _

/-- The path of a file stands behind the front of a directive, and it goes on in the next lines. -/
theorem lines_rerunIfFileChanged (p : Path) :
    ∃ first, Text.lines (rerunIfFileChanged p) = first :: (Text.lines p).tail ∧ IsDirective first := by
  obtain ⟨first, rest, whole, lines⟩ := Text.lines_append (by decide +kernel : '\n' ∉ fileFront.toList) p
  exact ⟨fileFront ++ first, by rw [whole]; exact lines, isDirective_append (by decide +kernel) first⟩

theorem length_lines_rerunIfFileChanged (p : Path) :
    (Text.lines (rerunIfFileChanged p)).length = p.toList.count '\n' + 1 := by
  obtain ⟨first, lines, -⟩ := lines_rerunIfFileChanged p
  rw [lines, List.length_cons, List.length_tail, Text.length_lines, Nat.add_sub_cancel]

end Directive

/-! ### Build scripts -/

def lineEnds (ps : List Path) : Nat := (ps.flatMap (·.toList)).count '\n'

theorem lineEnds_eq_zero_iff {ps : List Path} : lineEnds ps = 0 ↔ ∀ p ∈ ps, '\n' ∉ p.toList := by
  simp [lineEnds, List.count_eq_zero]

theorem length_flatMap_lines (ps : List Path) :
    (ps.flatMap fun p => Text.lines (Directive.rerunIfFileChanged p)).length = ps.length + lineEnds ps := by
  induction ps with
  | nil => rfl
  | cons p rest ih =>
    rw [List.flatMap_cons, List.length_append, ih, Directive.length_lines_rerunIfFileChanged, List.length_cons,
      lineEnds, lineEnds, List.flatMap_cons, List.count_append]
    omega

/-- Every printed line is a directive, and there is one for each variable of the configuration, for each file that
was read and for each diagnostic. -/
structure PrintsWholeDirectives (run : ScriptRun) (r : Report) : Prop where
  directives : ∀ line ∈ run.lines, Directive.IsDirective line
  count : run.lines.length = Variable.configuration.length + r.sources.length + r.diagnostics.length

def reported (e : Environment) (t : Tree) (manifestDir outDir : Path) : Report :=
  match Config.ofEnvironment e with
  | .error _ => {}
  | .ok c => (generate c t manifestDir outDir).1.toOption.getD {}

section

variable (e : Environment) (t : Tree) (manifestDir outDir : Path)

theorem printed_eq : ∃ failOnError, (runBuildScriptIn e t manifestDir outDir).printed =
    ScriptRun.opening ++ ScriptRun.directives failOnError (reported e t manifestDir outDir) := by
  unfold runBuildScriptIn reported
  cases Config.ofEnvironment e with
  | error cause => exact ⟨true, (List.append_nil _).symm⟩
  | ok c =>
    refine ⟨c.failOnError, ?_⟩
    dsimp only
    rcases generate c t manifestDir outDir with ⟨stop | r, w⟩
    · exact (List.append_nil _).symm
    · rfl

theorem lines_runBuildScriptIn :
    let r := reported e t manifestDir outDir
    ∃ failOnError, (runBuildScriptIn e t manifestDir outDir).lines =
      ScriptRun.opening ++ (r.sources.flatMap fun p => Text.lines (Directive.rerunIfFileChanged p)) ++
        r.diagnostics.map (Directive.display failOnError) := by
  intro r
  obtain ⟨failOnError, printed⟩ := printed_eq e t manifestDir outDir
  refine ⟨failOnError, ?_⟩
  have opening : ScriptRun.opening.flatMap Text.lines = ScriptRun.opening :=
    Text.flatMap_lines (by decide +kernel)
  have shown : (r.diagnostics.map (Directive.display failOnError)).flatMap Text.lines =
      r.diagnostics.map (Directive.display failOnError) := by
    refine Text.flatMap_lines fun line member => ?_
    obtain ⟨d, -, rfl⟩ := List.mem_map.mp member
    exact (Directive.shows_display failOnError d).oneLine
  rw [ScriptRun.lines_eq, printed, ScriptRun.directives, List.flatMap_append, List.flatMap_append, opening, shown,
    List.flatMap_map, List.append_assoc]

theorem exists_scanned {p : Path} (listed : p ∈ (reported e t manifestDir outDir).sources) :
    ∃ levels crateName root out, crateRoot t manifestDir = .ok root ∧
      scanCrate levels t crateName root = some out ∧ (reported e t manifestDir outDir).sources = out.files := by
  revert listed
  unfold reported
  cases Config.ofEnvironment e with
  | error cause => exact fun listed => absurd listed List.not_mem_nil
  | ok c =>
    dsimp only
    rcases generated : generate c t manifestDir outDir with ⟨stop | r, w⟩
    · exact fun listed => absurd listed List.not_mem_nil
    · intro _
      obtain ⟨b, rfl, -⟩ := exists_buildTrace generated
      exact ⟨_, _, b.root, b.scanned, b.start, b.scan, rfl⟩

end

theorem Scan.foreign_lineEnd : Scan.Foreign '\n' := ⟨by decide +kernel, by decide, by decide⟩

theorem mem_of_crateRoot {x : Char} (foreign : Scan.Foreign x) {t : Tree} {dir root : Path}
    (start : crateRoot t dir = .ok root) (member : x ∈ root.toList) : x ∈ dir.toList := by
  unfold crateRoot at start
  split at start
  · rename_i found
    cases start
    obtain ⟨name, among, rfl⟩ := List.mem_map.mp (List.mem_of_find?_eq_some found)
    have plain : x ∉ name.toList := by
      have names : ∀ name ∈ crateRoots, name.toList.all
          (fun c => Unicode.isIdentifierContinue c || c == '/' || c == '.') = true := by
        decide +kernel
      exact foreign.not_mem (names name among)
    by_contra absent
    exact Path.not_mem_join foreign.slash absent plain member
  · cases start

/-- What a build script prints in lines, for the report that it prints. -/
structure PrintsLines (t : Tree) (manifestDir : Path) (r : Report) (run : ScriptRun) : Prop where
  /-- All is well exactly where no path of a file that was read has a line end. -/
  whole_iff : PrintsWholeDirectives run r ↔ ∀ p ∈ r.sources, '\n' ∉ p.toList
  /-- Such a line end adds one line, and no other text adds any. -/
  count : run.lines.length =
    Variable.configuration.length + r.sources.length + r.diagnostics.length + lineEnds r.sources
  /-- A line that is no directive is a further line of such a path. -/
  broken : ∀ line ∈ run.lines, Directive.IsDirective line ∨ ∃ p ∈ r.sources, line ∈ (Text.lines p).tail
  /-- The line ends of paths are those of the given directory and of the paths that modules are declared with. -/
  origin : ∀ p ∈ r.sources, '\n' ∈ p.toList →
    '\n' ∈ manifestDir.toList ∨ ∃ q ∈ r.sources, Scan.DeclaresPath t '\n' q
  read : ∀ p ∈ r.sources, ∃ text, t.read p = .ok text

/-- The lines of a build script, in every environment and every file tree. -/
theorem runBuildScriptIn_prints_lines (e : Environment) (t : Tree) (manifestDir outDir : Path) :
    PrintsLines t manifestDir (reported e t manifestDir outDir) (runBuildScriptIn e t manifestDir outDir) := by
  obtain ⟨failOnError, lines⟩ := lines_runBuildScriptIn e t manifestDir outDir
  have scanned {p : Path} := exists_scanned e t manifestDir outDir (p := p)
  generalize reported e t manifestDir outDir = r at lines scanned ⊢
  generalize runBuildScriptIn e t manifestDir outDir = run at lines ⊢
  have broken : ∀ line ∈ run.lines,
      Directive.IsDirective line ∨ ∃ p ∈ r.sources, line ∈ (Text.lines p).tail := by
    intro line member
    rw [lines, List.append_assoc, List.mem_append, List.mem_append] at member
    rcases member with first | file | shown
    · obtain ⟨name, -, rfl⟩ := List.mem_map.mp first
      exact .inl (Directive.isDirective_rerunIfVariableChanged name)
    · obtain ⟨p, listed, member⟩ := List.mem_flatMap.mp file
      obtain ⟨first, parted, directive⟩ := Directive.lines_rerunIfFileChanged p
      rw [parted] at member
      rcases List.mem_cons.mp member with rfl | behind
      · exact .inl directive
      · exact .inr ⟨p, listed, behind⟩
    · obtain ⟨d, -, rfl⟩ := List.mem_map.mp shown
      exact .inl (Directive.isDirective_display failOnError d)
  have count : run.lines.length =
      Variable.configuration.length + r.sources.length + r.diagnostics.length + lineEnds r.sources := by
    rw [lines, List.length_append, List.length_append, length_flatMap_lines, ScriptRun.opening, List.length_map,
      List.length_map]
    omega
  constructor
  case whole_iff =>
    rw [← lineEnds_eq_zero_iff]
    constructor
    · intro whole
      have counted := whole.count
      omega
    · intro plain
      refine ⟨fun line member => ?_, by omega⟩
      refine (broken line member).resolve_right ?_
      rintro ⟨p, listed, behind⟩
      rw [Text.lines_of_not_mem (lineEnds_eq_zero_iff.mp plain p listed)] at behind
      cases behind
  case count => exact count
  case broken => exact broken
  case origin =>
    intro p listed ends
    obtain ⟨levels, crateName, root, out, start, scan, sources⟩ := scanned listed
    rw [sources] at listed ⊢
    exact (Scan.mem_root_or_declares Scan.foreign_lineEnd scan listed ends).imp_left
      (mem_of_crateRoot Scan.foreign_lineEnd start)
  case read =>
    intro p listed
    obtain ⟨levels, crateName, root, out, start, scan, sources⟩ := scanned listed
    rw [sources] at listed
    exact (Scan.file_tells _ t levels root _ scan).1 p listed

/-- A module in a file whose name has two lines. The second one is printed as a line of its own. -/
theorem file_name_adds_line :
    let e := Environment.ofList [("CARGO_PKG_NAME", .text "app")]
    let t := Tree.ofList [("src/lib.rs", .file (.text "#[path = \"a\\nb.rs\"] mod m;")),
      ("src/a\nb.rs", .file (.text ""))]
    let r := reported e t "." "out"
    let run := runBuildScriptIn e t "." "out"
    r.sources = ["./src/lib.rs", "./src/a\nb.rs"] ∧ r.diagnostics = [] ∧ run.lines.length = 8 ∧
      "b.rs" ∈ run.lines ∧ ¬Directive.IsDirective "b.rs" ∧ ¬PrintsWholeDirectives run r := by
  intro e t r run
  have report : (r.sources, r.diagnostics) = (["./src/lib.rs", "./src/a\nb.rs"], []) := by decide +kernel
  obtain ⟨sources, diagnostics⟩ := Prod.mk.inj report
  obtain ⟨failOnError, printed⟩ := lines_runBuildScriptIn e t "." "out"
  change run.lines = _ ++ r.sources.flatMap _ ++ r.diagnostics.map _ at printed
  rw [sources, diagnostics, List.map_nil, List.append_nil] at printed
  have stray : "b.rs" ∈ run.lines := by
    rw [printed]
    decide +kernel
  have none : ¬Directive.IsDirective "b.rs" := by decide +kernel
  refine ⟨sources, diagnostics, ?_, stray, none, fun whole => none (whole.directives _ stray)⟩
  rw [printed]
  decide +kernel

end SlotBinding
