import SlotBinding.Proofs.ScanTrace

/-!
# A file that cannot be used

`scanCrate_isolates`: where the content of one file is damaged, a scan loses what it found in the file and
below it, and nothing else.
-/

namespace SlotBinding

open Files (Content Entry Fault Path Trail Tree)
open Syntax (SyntaxError)

namespace Files.Tree

def fileTrail? (t : Tree) (p : Path) : Option Trail :=
  match t.find p with
  | .ok (.file trail _) => some trail
  | _ => none

theorem find_of_fileTrail? {t : Tree} {p : Path} {trail : Trail} (leads : t.fileTrail? p = some trail) :
    ∃ content, t.find p = .ok (.file trail content) := by
  unfold fileTrail? at leads
  split at leads
  · rename_i content found
    obtain rfl := Option.some.inj leads
    exact ⟨content, found⟩
  · cases leads

def Place.replaced (trail : Trail) (content : Content) : Place → Place
  | .file other held => .file other (if other = trail then content else held)
  | place => place

variable {t u : Tree} {trail : Trail} {a b : Content}

/-- Paths lead to the same places in two trees that differ in the content of one file. -/
theorem walk_replaced (elsewhere : ∀ other, other ≠ trail → u.entry? other = t.entry? other)
    (before : t.entry? trail = some (.file a)) (after : u.entry? trail = some (.file b))
    (parts : List String) (start : Trail) :
    u.walk start parts = (t.walk start parts).map (Place.replaced trail b) := by
  induction parts generalizing start with
  | nil => rfl
  | cons p rest ih =>
    rw [walk, walk]
    split
    · exact ih start
    · split
      · exact ih start.dropLast
      · split
        · rfl
        · dsimp only
          by_cases here : start ++ [p] = trail
          · rw [here, before, after]
            dsimp only
            split
            · simp [Except.map, Place.replaced]
            · rfl
          · rw [elsewhere _ here]
            split
            · exact ih (start ++ [p])
            · split
              · simp [Except.map, Place.replaced, here]
              · rfl
            · split <;> rfl

theorem find_replaced (elsewhere : ∀ other, other ≠ trail → u.entry? other = t.entry? other)
    (before : t.entry? trail = some (.file a)) (after : u.entry? trail = some (.file b)) (p : Path) :
    u.find p = (t.find p).map (Place.replaced trail b) := by
  unfold find follow
  split
  · rfl
  · split
    · rfl
    · split
      · rfl
      · exact walk_replaced elsewhere before after p.parts _

end Files.Tree

namespace Scan

def refusal : Content → Option String
  | .binary => some ("failed to read: " ++ Fault.notText.message)
  | .text s =>
    match Grammar.sourceFile s with
    | .error e => some ("failed to parse: " ++ e.message)
    | .ok _ => none

/-- Two trees differ in the content of one file, which can be used in the first tree only. -/
structure Breaks (t u : Tree) (trail : Trail) (message : String) : Prop where
  elsewhere : ∀ other, other ≠ trail → u.entry? other = t.entry? other
  whole : ∃ content, t.entry? trail = some (.file content) ∧ refusal content = none
  broken : ∃ content, u.entry? trail = some (.file content) ∧ refusal content = some message

def leadsTo (t : Tree) (trail : Trail) (p : Path) : Bool := t.fileTrail? p = some trail

/-- Whether a step is taken outside the file and everything that it leads to. -/
def outside (t : Tree) (trail : Trail) (s : Step) : Bool := !s.way.any (leadsTo t trail)

def refused (message : String) (p : Path) : Diagnostic :=
  .error .sourceUnavailable (some (.ofFile p)) message

/-- What is reported at a step where the file cannot be used. -/
def reportsAt (t : Tree) (trail : Trail) (message : String) : Event → List Diagnostic
  | .opens p => if leadsTo t trail p then [refused message p] else []
  | .reports d => [d]
  | _ => []

variable {t u : Tree} {trail : Trail} {message : String}

namespace Breaks

/-- Content that cannot be used breaks a file that could be used. -/
theorem set {a b : Content} (there : t.entry? trail = some (.file a)) (good : refusal a = none)
    (bad : refusal b = some message) : Breaks t (t.set trail (.file b)) trail message := by
  have file : ¬(trail = [] ∨ trail = Tree.working) := by
    intro directory
    have known : t.entry? trail = some .directory := by simp [Tree.entry?, directory]
    rw [known] at there
    cases there
  refine ⟨fun other apart => ?_, ⟨a, there, good⟩, ⟨b, ?_, bad⟩⟩
  · simp only [Tree.entry?, Tree.set, InsertionMap.get?_insert_of_ne _ apart]
  · simp [Tree.entry?, Tree.set, file]

theorem find_eq (breaks : Breaks t u trail message) (p : Path) :
    ∃ content, refusal content = some message ∧
      u.find p = (t.find p).map (Tree.Place.replaced trail content) := by
  obtain ⟨a, before, _⟩ := breaks.whole
  obtain ⟨b, after, bad⟩ := breaks.broken
  exact ⟨b, bad, Tree.find_replaced breaks.elsewhere before after p⟩

theorem sameOutline (breaks : Breaks t u trail message) : Tree.SameOutline t u := by
  intro other
  by_cases here : other = trail
  · obtain ⟨a, before, _⟩ := breaks.whole
    obtain ⟨b, after, _⟩ := breaks.broken
    exact .inr ⟨a, b, here ▸ before, here ▸ after⟩
  · exact .inl (breaks.elsewhere other here).symm

theorem opened_of_not_leadsTo (breaks : Breaks t u trail message) {p : Path}
    (other : leadsTo t trail p = false) : opened u p = opened t p := by
  obtain ⟨content, _, found⟩ := breaks.find_eq p
  have same : u.find p = t.find p := by
    rw [found]
    cases before : t.find p with
    | error e => rfl
    | ok place =>
      cases place with
      | file at' held =>
        have apart : at' ≠ trail := by
          rintro rfl
          simp [leadsTo, Tree.fileTrail?, before] at other
        simp [Except.map, Tree.Place.replaced, apart]
      | directory | free => rfl
  simp only [opened, Tree.read, same]

/-- The file gives nothing but one error. -/
theorem opened_of_leadsTo (breaks : Breaks t u trail message) {p : Path}
    (leads : leadsTo t trail p = true) :
    (opened u p).2 = none ∧ (opened u p).1.filterMap (·.site?) = [] ∧
      (opened u p).1.filterMap (·.diagnostic?) = [refused message p] := by
  obtain ⟨content, bad, found⟩ := breaks.find_eq p
  obtain ⟨held, before⟩ := Tree.find_of_fileTrail? (of_decide_eq_true leads)
  have after : u.find p = .ok (.file trail content) := by
    rw [found, before]
    simp [Except.map, Tree.Place.replaced]
  cases content with
  | binary =>
    obtain rfl := Option.some.inj bad
    have read : u.read p = .error .notText := by simp only [Tree.read, after]
    simp [opened, read, Event.site?, Event.diagnostic?, refused, ScanOutput.unread]
  | text s =>
    have read : u.read p = .ok s := by simp only [Tree.read, after]
    unfold refusal at bad
    dsimp only at bad
    split at bad
    · rename_i e fails
      obtain rfl := Option.some.inj bad
      simp [opened, read, fails, Event.site?, Event.diagnostic?, refused, unparsed]
    · cases bad

theorem agree (breaks : Breaks t u trail message) (e : Event) : Agree t u (leadsTo t trail) e := by
  cases e with
  | probes p => exact Tree.isFile_of_sameOutline breaks.sameOutline p
  | opens p =>
    rw [Agree]
    cases leads : leadsTo t trail p with
    | true => exact (breaks.opened_of_leadsTo leads).1
    | false => exact breaks.opened_of_not_leadsTo leads
  | lists | finds | reports => trivial

theorem output_cut (breaks : Breaks t u trail message) (s : Step) :
    (output (cut u (leadsTo t trail) s)).sites = (if outside t trail s then s.event.site?.toList else []) ∧
      (output (cut u (leadsTo t trail) s)).diagnostics =
        if outside t trail s then reportsAt t trail message s.event else [] := by
  obtain ⟨way, e⟩ := s
  unfold cut outside
  cases through : way.any (leadsTo t trail) with
  | true => exact ⟨rfl, rfl⟩
  | false =>
    cases e with
    | opens p =>
      cases leads : leadsTo t trail p with
      | true =>
        obtain ⟨_, sites, diagnostics⟩ := breaks.opened_of_leadsTo leads
        have none : (Event.opens p).site? = none := rfl
        simp [reportsAt, leads, output_entry, sites, diagnostics, none]
      | false => simp [output, reportsAt, leads, Event.site?, Event.diagnostic?]
    | probes | lists | finds | reports => simp [output, reportsAt, Event.site?, Event.diagnostic?]

theorem output_flatMap_cut (breaks : Breaks t u trail message) (steps : List Step) :
    let left := output (steps.flatMap (cut u (leadsTo t trail)))
    left.sites = (steps.filter (outside t trail)).filterMap (·.event.site?) ∧
      left.diagnostics =
        (steps.filter (outside t trail)).flatMap fun s => reportsAt t trail message s.event := by
  induction steps with
  | nil => exact ⟨rfl, rfl⟩
  | cons s rest ih =>
    obtain ⟨sites, diagnostics⟩ := breaks.output_cut s
    dsimp only at ih ⊢
    rw [List.flatMap_cons, output_append, List.filter_cons]
    show _ ++ _ = _ ∧ _ ++ _ = _
    rw [ih.1, ih.2, sites, diagnostics]
    cases outside t trail s with
    | true =>
      refine ⟨?_, rfl⟩
      cases site : s.event.site? <;> simp [site]
    | false => exact ⟨rfl, rfl⟩

end Breaks

end Scan

open Scan

/-- A file that breaks takes with it what was found in it and below it. The sites that are left, in their
order, and all other diagnostics stay, and every time the scan comes to the file it reports one error on it. -/
theorem scanCrate_isolates {t u : Tree} {trail : Trail} {message : String}
    (breaks : Breaks t u trail message) {levels : Nat} {crateName : String} {root : Path} {out : ScanOutput}
    (scanned : scanCrate levels t crateName root = some out) :
    ∃ steps left, traceCrate levels t crateName root = some steps ∧ out = output steps ∧
      scanCrate levels u crateName root = some left ∧
      (∀ n other, scanCrate n u crateName root = some other → other = left) ∧
      left.sites = (steps.filter (outside t trail)).filterMap (·.event.site?) ∧
      left.diagnostics =
        (steps.filter (outside t trail)).flatMap fun s => reportsAt t trail message s.event := by
  rw [scanCrate_eq_output] at scanned
  obtain ⟨steps, walked, rfl⟩ := Option.map_eq_some_iff.mp scanned
  have clear : ([] : List Path).any (leadsTo t trail) = false := rfl
  have cutSteps := traceFile_cut (pathCrateName crateName) levels clear root (rootContext root) steps walked
    fun s _ => breaks.agree s.event
  have left : scanCrate levels u crateName root = some (output (steps.flatMap (cut u (leadsTo t trail)))) := by
    rw [scanCrate_eq_output, traceCrate, cutSteps, Option.map_some]
  refine ⟨steps, _, walked, rfl, left, fun n other ends => ?_, breaks.output_flatMap_cut steps⟩
  have all := scanCrate_of_le (Nat.le_max_left n levels) ends
  rw [scanCrate_of_le (Nat.le_max_right n levels) left] at all
  exact (Option.some.inj all).symm

/-- A file that is read for two modules, with a module below it the first time. -/
theorem scanCrate_isolates_file_of_two_modules :
    let t := Tree.ofList
      [("src/lib.rs", .file (.text
          "mod a; #[path = \"a.rs\"] mod again; pub struct R \x7b #[bind(1)] pub x: L \x7d")),
        ("src/a.rs", .file (.text "mod c; pub struct A \x7b #[bind(2)] pub x: L \x7d")),
        ("src/a/c.rs", .file (.text "pub struct C \x7b #[bind(3)] pub x: L \x7d"))]
    let trail := ["work", "src", "a.rs"]
    let u := t.set trail (.file (.text "mod c; pub struct A ("))
    let message := "failed to parse: cannot parse string into token stream"
    ∃ out steps left, Breaks t u trail message ∧
      scanCrate 3 t "app" "src/lib.rs" = some out ∧ out.sites.length = 4 ∧ out.diagnostics.length = 1 ∧
      scanCrate 3 u "app" "src/lib.rs" = some left ∧ left.sites.length = 1 ∧
      left.diagnostics = [refused message "src/a.rs", refused message "src/a.rs"] ∧
      traceCrate 3 t "app" "src/lib.rs" = some steps ∧
      left.sites = (steps.filter (outside t trail)).filterMap (·.event.site?) := by
  intro t trail u message
  have whole : refusal (.text "mod c; pub struct A \x7b #[bind(2)] pub x: L \x7d") = none := by
    decide +kernel
  have breaks : Breaks t u trail message := .set (by decide +kernel) whole (by decide +kernel)
  have scanned : (scanCrate 3 t "app" "src/lib.rs").any (fun out =>
      out.sites.length = 4 && out.diagnostics.length = 1) = true := by
    decide +kernel
  have remaining : (scanCrate 3 u "app" "src/lib.rs").any (fun left => left.sites.length = 1 &&
      left.diagnostics = [refused message "src/a.rs", refused message "src/a.rs"]) = true := by
    decide +kernel
  obtain ⟨out, found, checks⟩ := (Option.any_eq_true _ _).mp scanned
  obtain ⟨four, one⟩ := Bool.and_eq_true_iff.mp checks
  obtain ⟨steps, left, walked, _, again, _, sites, _⟩ := scanCrate_isolates breaks found
  rw [again] at remaining
  obtain ⟨single, errors⟩ := Bool.and_eq_true_iff.mp remaining
  exact ⟨out, steps, left, breaks, found, of_decide_eq_true four, of_decide_eq_true one, again,
    of_decide_eq_true single, of_decide_eq_true errors, walked, sites⟩

end SlotBinding
