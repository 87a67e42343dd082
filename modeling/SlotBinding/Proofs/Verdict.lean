import Mathlib.Data.List.Forall2
import SlotBinding.Generation.BuildScript
import SlotBinding.Proofs.Rebuilding

/-!
# How a build script ends

A build script shows each diagnostic in a line of its own, and it fails where one of the lines is an error.
`verdict_agrees`: it fails with as many errors as it shows, which are those of the scan and of the pass.
-/

namespace SlotBinding

open Files (Path Tree)

theorem Text.not_mem_replaceChar {old new : Char} (different : new ≠ old) (s : String) :
    old ∉ (replaceChar old new s).toList := by
  rw [replaceChar, String.toList_ofList, List.mem_map]
  rintro ⟨c, -, same⟩
  split at same
  · exact different same
  · rename_i other
    exact other (beq_iff_eq.mpr same)

namespace Directive

def errorFront : String := "cargo::error="

def warningFront : String := "cargo::warning="

def isErrorLine (line : String) : Bool := errorFront.toList.isPrefixOf line.toList

/-- The line is one line, and it is the whole text of the diagnostic, with blanks for line ends, behind the
beginning for its severity. -/
structure Shows (failOnError : Bool) (d : Diagnostic) (line : String) : Prop where
  oneLine : '\n' ∉ line.toList
  parts : ∃ shown, line = (if d.isError && failOnError then errorFront else warningFront) ++ shown ∧
    List.Forall₂ (fun c s => s = if c = '\n' then ' ' else c) d.text.toList shown.toList

variable {failOnError : Bool} {d : Diagnostic} {line : String}

theorem isErrorLine_errorFront (shown : String) : isErrorLine (errorFront ++ shown) = true := by
  rw [isErrorLine, String.toList_append, List.isPrefixOf_iff_prefix]
  exact List.prefix_append _ _

theorem isErrorLine_warningFront (shown : String) : isErrorLine (warningFront ++ shown) = false := by
  rw [isErrorLine, String.toList_append]
  rfl

theorem Shows.isErrorLine_eq (shows' : Shows failOnError d line) :
    isErrorLine line = (d.isError && failOnError) := by
  obtain ⟨shown, rfl, -⟩ := shows'.parts
  cases d.isError && failOnError with
  | true => exact isErrorLine_errorFront shown
  | false => exact isErrorLine_warningFront shown

theorem countP_isErrorLine {ds : List Diagnostic} {lines : List String}
    (shown : List.Forall₂ (Shows failOnError) ds lines) :
    lines.countP isErrorLine = if failOnError then ds.countP (·.isError) else 0 := by
  induction shown with
  | nil => simp
  | cons first _ ih =>
    rw [List.countP_cons, ih, first.isErrorLine_eq]
    cases failOnError <;> simp [List.countP_cons]

theorem shows_display (failOnError : Bool) (d : Diagnostic) : Shows failOnError d (display failOnError d) := by
  have parted : display failOnError d =
      (if d.isError && failOnError then errorFront else warningFront) ++ Text.replaceChar '\n' ' ' d.text := by
    unfold display
    split <;> rfl
  constructor
  · have blank : '\n' ∉ (Text.replaceChar '\n' ' ' d.text).toList := Text.not_mem_replaceChar (by decide) _
    rw [parted, String.toList_append, List.mem_append, not_or]
    refine ⟨?_, blank⟩
    split <;> decide
  · refine ⟨_, parted, ?_⟩
    rw [Text.replaceChar, String.toList_ofList, List.forall₂_map_right_iff, List.forall₂_same]
    intro c _
    simp only [beq_iff_eq]

end Directive

/-- What was shown of the diagnostics of a build agrees with how the build ended. -/
structure Announced (failOnError : Bool) (ds : List Diagnostic) (lines : List String)
    (result : Except BuildStop Report) : Prop where
  shown : List.Forall₂ (Directive.Shows failOnError) ds lines
  failed_iff : ∀ n, result = .error (.error (.failed n)) ↔
    failOnError = true ∧ n = ds.countP (·.isError) ∧ 0 < n
  errorLines : ∀ n, result = .error (.error (.failed n)) → lines.countP Directive.isErrorLine = n
  noErrorLines : ∀ r, result = .ok r → ∀ line ∈ lines, Directive.isErrorLine line = false
  ended : (∃ n, result = .error (.error (.failed n))) ∨ ∃ r, result = .ok r ∧ r.diagnostics = ds

theorem verdict_eq_failed_iff {failOnError : Bool} {r : Report} {n : Nat} :
    ScriptRun.verdict failOnError r = .error (.error (.failed n)) ↔
      failOnError = true ∧ n = r.diagnostics.countP (·.isError) ∧ 0 < n := by
  have errors : r.errors.length = r.diagnostics.countP (·.isError) := List.countP_eq_length_filter.symm
  rw [← errors]
  unfold ScriptRun.verdict
  constructor
  · intro failed
    split at failed
    · rename_i fails
      rw [Bool.and_eq_true, decide_eq_true_eq] at fails
      cases failed
      exact ⟨fails.1, rfl, fails.2⟩
    · cases failed
  · rintro ⟨rfl, rfl, positive⟩
    rw [Bool.true_and, if_pos (decide_eq_true positive)]

theorem announced_verdict (failOnError : Bool) (r : Report) :
    Announced failOnError r.diagnostics (r.diagnostics.map (Directive.display failOnError))
      (ScriptRun.verdict failOnError r) := by
  have shown : List.Forall₂ (Directive.Shows failOnError) r.diagnostics
      (r.diagnostics.map (Directive.display failOnError)) := by
    rw [List.forall₂_map_right_iff, List.forall₂_same]
    exact fun d _ => Directive.shows_display failOnError d
  have count := Directive.countP_isErrorLine shown
  refine ⟨shown, fun n => verdict_eq_failed_iff, fun n failed => ?_, fun q passed => ?_, ?_⟩
  · obtain ⟨fails, rfl, -⟩ := verdict_eq_failed_iff.mp failed
    rw [count, if_pos fails]
  · -- A build that fails on errors and did not fail has none.
    have none : (if failOnError then r.diagnostics.countP (·.isError) else 0) = 0 := by
      split
      · rename_i fails
        refine Nat.eq_zero_of_not_pos fun positive => ?_
        rw [verdict_eq_failed_iff.mpr ⟨fails, rfl, positive⟩] at passed
        cases passed
      · rfl
    rw [none, List.countP_eq_zero] at count
    exact fun line among => Bool.eq_false_iff.mpr (count line among)
  · unfold ScriptRun.verdict
    split
    · exact .inl ⟨_, rfl⟩
    · exact .inr ⟨r, rfl, rfl⟩

/-! ### Build scripts -/

variable {e : Environment} {c : Config} {t w : Tree} {manifestDir outDir : Path} {r : Report}

/-- A build script whose configuration and generation succeed shows the diagnostics of the scan and then those
of the pass, each in one line. It fails with a number of errors exactly where errors fail the build and the
diagnostics hold so many, and then so many of the lines are errors; otherwise none is. -/
theorem verdict_agrees (configured : Config.ofEnvironment e = .ok c)
    (generated : generate c t manifestDir outDir = (.ok r, w)) :
    ∃ root g scanned pass s lines, crateRoot t manifestDir = .ok root ∧ Generator.ofConfig c = .ok g ∧
      scanCrate (levelsFor t) t c.crateName root = some scanned ∧
      g.runPass scanned.sites DirectorySink.sink (.fresh outDir t) = (.ok pass, s) ∧
      r.diagnostics = scanned.diagnostics ++ pass.diagnostics ∧
      (runBuildScriptIn e t manifestDir outDir).printed =
        ScriptRun.opening ++ scanned.files.map Directive.rerunIfFileChanged ++ lines ∧
      Announced c.failOnError (scanned.diagnostics ++ pass.diagnostics) lines
        (runBuildScriptIn e t manifestDir outDir).result := by
  obtain ⟨b, rfl, rfl⟩ := exists_buildTrace generated
  have run : runBuildScriptIn e t manifestDir outDir =
      { printed := ScriptRun.opening ++ ScriptRun.directives c.failOnError b.report
        result := ScriptRun.verdict c.failOnError b.report, tree := b.sink.tree } := by
    rw [runBuildScriptIn, configured]
    dsimp only
    rw [generated]
  rw [run]
  refine ⟨b.root, b.generator, b.scanned, b.pass.report, b.sink,
    b.report.diagnostics.map (Directive.display c.failOnError), b.start, b.configured, b.scan,
    b.pass.runPass_eq, rfl, ?_, announced_verdict c.failOnError b.report⟩
  rw [List.append_assoc]
  rfl

/-- A module in a file whose name has two lines is missing, one slot is taken twice and another one is missing. -/
theorem verdict_agrees_on_two_errors :
    let e := Environment.ofList [("CARGO_PKG_NAME", .text "app")]
    let c := Config.ofCrate "app"
    let t := Tree.ofList [("src/lib.rs", .file (.text ("#[path = \"a\\nb.rs\"] mod m; " ++
      "pub struct H \x7b #[bind(1)] pub x: L, #[bind(1)] pub y: L, #[bind] pub z: L \x7d")))]
    ∃ r w, Config.ofEnvironment e = .ok c ∧ generate c t "." "out" = (.ok r, w) ∧
      (runBuildScriptIn e t "." "out").result = .error (.error (.failed 2)) ∧
      ∃ front lines, (runBuildScriptIn e t "." "out").printed = front ++ lines ∧ lines.length = 3 ∧
        lines.countP Directive.isErrorLine = 2 ∧ List.Forall₂ (Directive.Shows true) r.diagnostics lines := by
  intro e c t
  have configured : Config.ofEnvironment e = .ok c := eq_ok_of_toOption (by decide +kernel)
  obtain ⟨r, w, generated, severities⟩ := exists_run_of_both (x := generate c t "." "out")
    (p := fun r _ => r.diagnostics.map (·.isError) == [true, true, false]) (by decide +kernel)
  obtain ⟨-, -, scanned, pass, -, lines, -, -, -, -, combined, printed, announced⟩ :=
    verdict_agrees configured generated
  rw [← combined] at announced
  have severities := beq_iff_eq.mp severities
  have two : r.diagnostics.countP (·.isError) = 2 := by
    have counted := congrArg (List.countP id) severities
    rwa [List.countP_map] at counted
  have failed := (announced.failed_iff 2).mpr ⟨rfl, two.symm, by decide⟩
  refine ⟨r, w, configured, generated, failed, _, lines, printed, ?_, announced.errorLines 2 failed,
    announced.shown⟩
  rw [← announced.shown.length_eq]
  simpa using congrArg List.length severities

end SlotBinding
