import SlotBinding.Derive
import SlotBinding.Proofs.Config
import SlotBinding.Proofs.Text.Trim
import SlotBinding.Proofs.Writing

/-!
# One runtime crate for the generator and for derived code

A configuration drops a blank setting before the path is read, and fails where there is no path. Derived
code reads the path at once, and falls back on the default. `runtime_agrees`: where there is a
configuration, both refer to the crate that `AsksRuntime` tells from the value of the variable alone.
-/

namespace SlotBinding

open Variable (runtimeCrate)

inductive AsksRuntime (e : Environment) : String → Prop
  | unset (absent : e.entries.get? runtimeCrate = none) : AsksRuntime e ":: viewbind"
  | noText (set : e.entries.get? runtimeCrate = some .binary) : AsksRuntime e ":: viewbind"
  | blank {value : String} (set : e.entries.get? runtimeCrate = some (.text value))
      (blank : Text.Pads value "") : AsksRuntime e ":: viewbind"
  | path {value path : String} {node ts} (set : e.entries.get? runtimeCrate = some (.text value))
      (padded : Text.Pads value path) (bare : Text.BareEnds path.toList)
      (reads : Grammar.readText (fun g => Grammar.path g false) path = .ok (node, ts)) :
      AsksRuntime e (Token.textAll ts)

theorem runtimeTokens?_trim (s : String) : runtimeTokens? (Text.trim s) = runtimeTokens? s := by
  rw [runtimeTokens?, runtimeTokens?, Text.trim_trim]

theorem runtimeTokens?_default : runtimeTokens? defaultRuntimePath = some ":: viewbind" := by
  decide +kernel

theorem runtimeTokens?_empty : runtimeTokens? "" = none := by
  decide +kernel

theorem runtimeTokens?_eq_some_iff {s runtime : String} :
    runtimeTokens? s = some runtime ↔
      ∃ node ts, Grammar.readText (fun g => Grammar.path g false) (Text.trim s) = .ok (node, ts) ∧
        runtime = Token.textAll ts := by
  unfold runtimeTokens?
  cases read : Grammar.readText (fun g => Grammar.path g false) (Text.trim s) with
  | error e => simp
  | ok r =>
    obtain ⟨node, ts⟩ := r
    simp [eq_comm]

theorem derivedRuntime_of_asksRuntime {e : Environment} {runtime : String} (asks : AsksRuntime e runtime) :
    derivedRuntime e = runtime := by
  cases asks with
  | unset absent => simp [derivedRuntime, Environment.get?, absent]
  | noText set => simp [derivedRuntime, Environment.get?, set]
  | @blank value set blank =>
    have trimmed : Text.trim value = "" := Text.trim_eq_iff.mpr ⟨blank, by simp [Text.BareEnds]⟩
    have none : runtimeTokens? value = none := by
      rw [← runtimeTokens?_trim, trimmed, runtimeTokens?_empty]
    simp [derivedRuntime, Environment.get?, set, none]
  | @path value path node ts set padded bare reads =>
    have trimmed : Text.trim value = path := Text.trim_eq_iff.mpr ⟨padded, bare⟩
    have tokens : runtimeTokens? value = some (Token.textAll ts) :=
      runtimeTokens?_eq_some_iff.mpr ⟨node, ts, trimmed ▸ reads, rfl⟩
    simp [derivedRuntime, Environment.get?, set, tokens]

namespace Config

variable {e : Environment} {c d : Config}

theorem asksRuntime_of_ofEnvironment {runtime : String} (configured : ofEnvironment e = .ok c)
    (tokens : c.runtimeTokens = .ok runtime) : AsksRuntime e runtime := by
  have path := (runtimePath_of_ofEnvironment configured).1
  rw [runtimeTokens_eq_ok_iff, path] at tokens
  cases held : e.entries.get? runtimeCrate with
  | none =>
    have none : setting? e runtimeCrate = none := by simp [setting?, Environment.get?, held]
    rw [none, Option.getD_none, runtimeTokens?_default] at tokens
    cases tokens
    exact .unset held
  | some content =>
    cases content with
    | binary =>
      have none : setting? e runtimeCrate = none := by simp [setting?, Environment.get?, held]
      rw [none, Option.getD_none, runtimeTokens?_default] at tokens
      cases tokens
      exact .noText held
    | text value =>
      obtain ⟨pads, bare⟩ := Text.trim_eq_iff.mp (rfl : Text.trim value = Text.trim value)
      by_cases empty : Text.trim value = ""
      · have none : setting? e runtimeCrate = none := by simp [setting?, Environment.get?, held, empty]
        rw [none, Option.getD_none, runtimeTokens?_default] at tokens
        cases tokens
        exact .blank held (empty ▸ pads)
      · have some' : setting? e runtimeCrate = some (Text.trim value) := by
          simp [setting?, Environment.get?, held, empty]
        rw [some', Option.getD_some, runtimeTokens?_eq_some_iff, Text.trim_trim] at tokens
        obtain ⟨node, ts, reads, rfl⟩ := tokens
        exact .path held pads bare reads

end Config

/-- Where an environment gives a configuration, the generator is made, and it refers to the runtime crate to
which the code refers that is derived in the same environment. -/
theorem runtime_agrees {e : Environment} {c : Config} (configured : Config.ofEnvironment e = .ok c) :
    ∃ g, Generator.ofConfig c = .ok g ∧ g.config = c ∧
      (∀ runtime, AsksRuntime e runtime ↔ runtime = g.renderer.runtime) ∧
      derivedRuntime e = g.renderer.runtime ∧
      ∀ ts d w, Grammar.readAll DeriveInput.read ts = .ok (d, w) → d.kind = .struct →
        derivePath e ts = hostImplementation g.renderer.runtime d := by
  obtain ⟨_, runtime, tokens⟩ := Config.runtimePath_of_ofEnvironment configured
  have asks : AsksRuntime e runtime := Config.asksRuntime_of_ofEnvironment configured tokens
  have derived : derivedRuntime e = runtime := derivedRuntime_of_asksRuntime asks
  have made : Generator.ofConfig c = .ok { config := c, renderer := { runtime } } := by
    rw [Generator.ofConfig, tokens]
    rfl
  refine ⟨_, made, rfl, fun other => ⟨fun asked => ?_, ?_⟩, derived, fun ts d w reads kind => ?_⟩
  · exact (derivedRuntime_of_asksRuntime asked).symm.trans derived
  · rintro rfl
    exact asks
  · rw [← derived, derivePath, reads]
    simp [kind]

/-- A path with blanks around it and between its tokens. -/
theorem runtime_agrees_of_padded_path :
    let e := Environment.ofList
      [("CARGO_PKG_NAME", .text "my-app"), ("VIEWBIND_CRATE", .text " \t my ::ui\n")]
    ∃ c g, Config.ofEnvironment e = .ok c ∧ Generator.ofConfig c = .ok g ∧ g.config = c ∧
      g.renderer.runtime = "my :: ui" ∧ derivedRuntime e = "my :: ui" := by
  intro e
  have runs : (Config.ofEnvironment e).toOption.any (fun _ => derivedRuntime e = "my :: ui") = true := by
    decide +kernel
  obtain ⟨c, configured, derived⟩ := (Option.any_eq_true _ _).mp runs
  have configured := eq_ok_of_toOption configured
  have derived : derivedRuntime e = "my :: ui" := of_decide_eq_true derived
  obtain ⟨g, made, same, _, agrees, _⟩ := runtime_agrees configured
  exact ⟨c, g, configured, made, same, agrees.symm.trans derived, derived⟩

end SlotBinding
