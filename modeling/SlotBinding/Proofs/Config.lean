import SlotBinding.Config.Basic
import SlotBinding.Proofs.Collection.InsertionMap
import SlotBinding.Proofs.Results

/-!
# Laws of environments and configurations

`ofEnvironment_congr`: of an environment only the settings matter and the name of the crate.
-/

namespace SlotBinding

namespace Environment

variable {n m : String}

theorem get?_unset_self (e : Environment) (n : String) : (e.unset n).get? n = none := by
  rw [get?, unset, InsertionMap.get?_erase_self]

theorem get?_unset_of_ne (e : Environment) (other : m ≠ n) : (e.unset n).get? m = e.get? m := by
  rw [get?, get?, unset, InsertionMap.get?_erase_of_ne _ other]

theorem get?_set_self (e : Environment) (n value : String) : (e.set n (.text value)).get? n = some value := by
  rw [get?, set, InsertionMap.get?_insert_self]

theorem get?_set_of_ne (e : Environment) (other : m ≠ n) (value : Files.Content) :
    (e.set n value).get? m = e.get? m := by
  rw [get?, get?, set, InsertionMap.get?_insert_of_ne _ other]

end Environment

namespace Config

variable {e f : Environment} {c d : Config} {n : String}

def settings : List String := [Variable.runtimeCrate, Variable.duplicateSlots, Variable.failOnError]

def configured (c : Config) (e : Environment) : Except BuildError Config :=
  ((c.withRuntimePath (setting? e Variable.runtimeCrate)).withDuplicateSlots
      (setting? e Variable.duplicateSlots)).bind fun c =>
    (c.withFailOnError (setting? e Variable.failOnError)).bind fun c => c.runtimeTokens.bind fun _ => .ok c

def givenName? (e : Environment) : Option String := (e.get? Variable.crateName).or (e.get? Variable.packageName)

theorem ofEnvironment_of_name {name : String} (given : givenName? e = some name) :
    ofEnvironment e = (ofCrate name).configured e := by
  have named : crateNameOf e = .ok name := by
    rw [givenName?] at given
    rw [crateNameOf, given]
  rw [ofEnvironment, named]
  rfl

theorem ofEnvironment_of_no_name (missing : givenName? e = none) :
    ofEnvironment e = .error (.missingVariable Variable.packageName) := by
  rw [givenName?] at missing
  rw [ofEnvironment, crateNameOf, missing]
  rfl

theorem configured_congr (same : ∀ n ∈ settings, setting? e n = setting? f n) (c : Config) :
    c.configured e = c.configured f := by
  rw [configured, configured, same Variable.runtimeCrate (by simp [settings]),
    same Variable.duplicateSlots (by simp [settings]), same Variable.failOnError (by simp [settings])]

theorem ofCrate_congr {x y : String} (same : Text.trim x = Text.trim y) : ofCrate x = ofCrate y := by
  rw [ofCrate, ofCrate, same]

/-- The name of the crate counts without the blanks at its ends, and the rest is in the settings. -/
theorem ofEnvironment_congr (name : (givenName? e).map Text.trim = (givenName? f).map Text.trim)
    (same : ∀ n ∈ settings, setting? e n = setting? f n) : ofEnvironment e = ofEnvironment f := by
  cases givenE : givenName? e with
  | none =>
    have givenF : givenName? f = none := Option.map_eq_none_iff.mp (by rw [← name, givenE]; rfl)
    rw [ofEnvironment_of_no_name givenE, ofEnvironment_of_no_name givenF]
  | some x =>
    obtain ⟨y, givenF, trimmed⟩ : ∃ y, givenName? f = some y ∧ Text.trim y = Text.trim x := by
      simpa [givenE, eq_comm] using name
    rw [ofEnvironment_of_name givenE, ofEnvironment_of_name givenF, ofCrate_congr trimmed, configured_congr same]

theorem setting?_congr (same : (e.get? n).map Text.trim = (f.get? n).map Text.trim) :
    setting? e n = setting? f n := by
  rw [setting?, setting?, same]

theorem ofEnvironment_of_same_trimmed (same : ∀ n, (e.get? n).map Text.trim = (f.get? n).map Text.trim) :
    ofEnvironment e = ofEnvironment f := by
  refine ofEnvironment_congr ?_ fun n _ => setting?_congr (same n)
  rw [givenName?, givenName?, Option.map_or, Option.map_or, same, same]

/-! ### The name of the crate and the runtime path -/

def named (c : Config) (name : String) : Config := { c with crateName := name }

theorem withDuplicateSlots_named (c : Config) (name : String) (value : Option String) :
    (c.named name).withDuplicateSlots value = (c.withDuplicateSlots value).map (·.named name) := by
  cases value with
  | none => rfl
  | some value =>
    simp only [withDuplicateSlots]
    cases DuplicatePolicy.ofText value <;> rfl

theorem withFailOnError_named (c : Config) (name : String) (value : Option String) :
    (c.named name).withFailOnError value = (c.withFailOnError value).map (·.named name) := by
  cases value with
  | none => rfl
  | some value =>
    simp only [withFailOnError]
    cases truth? value <;> rfl

theorem configured_named (c : Config) (name : String) (e : Environment) :
    (c.named name).configured e = (c.configured e).map (·.named name) := by
  have path : (c.named name).withRuntimePath (setting? e Variable.runtimeCrate) =
      (c.withRuntimePath (setting? e Variable.runtimeCrate)).named name := rfl
  have tokens (d : Config) : (d.named name).runtimeTokens = d.runtimeTokens := by simp only [runtimeTokens, named]
  rw [configured, configured, path, withDuplicateSlots_named]
  cases (c.withRuntimePath (setting? e Variable.runtimeCrate)).withDuplicateSlots
      (setting? e Variable.duplicateSlots) with
  | error cause => rfl
  | ok withPolicy =>
    simp only [Except.map, Except.bind, withFailOnError_named]
    cases withPolicy.withFailOnError (setting? e Variable.failOnError) with
    | error cause => rfl
    | ok withFail =>
      simp only [tokens]
      cases withFail.runtimeTokens <;> rfl

theorem configured_ne_missingVariable (c : Config) (e : Environment) (n : String) :
    c.configured e ≠ .error (.missingVariable n) := by
  intro missing
  unfold configured at missing
  cases policy : (c.withRuntimePath (setting? e Variable.runtimeCrate)).withDuplicateSlots
      (setting? e Variable.duplicateSlots) with
  | error cause =>
    rw [policy] at missing
    obtain rfl : cause = .missingVariable n := Except.error.inj missing
    unfold withDuplicateSlots at policy
    split at policy
    · cases policy
    · split at policy <;> cases policy
  | ok withPolicy =>
    rw [policy] at missing
    simp only [Except.bind] at missing
    cases fail : withPolicy.withFailOnError (setting? e Variable.failOnError) with
    | error cause =>
      rw [fail] at missing
      obtain rfl : cause = .missingVariable n := Except.error.inj missing
      unfold withFailOnError at fail
      split at fail
      · cases fail
      · split at fail <;> cases fail
    | ok withFail =>
      rw [fail] at missing
      unfold runtimeTokens at missing
      cases tokens : runtimeTokens? withFail.runtimePath <;> simp [tokens] at missing

theorem crateName_of_configured {d : Config} (made : c.configured e = .ok d) : d.crateName = c.crateName := by
  have whole : c.configured e = (c.configured e).map (·.named c.crateName) := configured_named c c.crateName e
  rw [made] at whole
  have same : d = d.named c.crateName := Except.ok.inj whole
  rw [same]
  rfl

theorem runtimePath_of_withDuplicateSlots {value : Option String} (ok : c.withDuplicateSlots value = .ok d) :
    d.runtimePath = c.runtimePath := by
  cases value with
  | none =>
    cases ok
    rfl
  | some value =>
    unfold withDuplicateSlots at ok
    cases read : DuplicatePolicy.ofText value with
    | error reason => simp [read] at ok
    | ok policy =>
      simp only [read, Except.ok.injEq] at ok
      rw [← ok]

theorem runtimePath_of_withFailOnError {value : Option String} (ok : c.withFailOnError value = .ok d) :
    d.runtimePath = c.runtimePath := by
  cases value with
  | none =>
    cases ok
    rfl
  | some value =>
    unfold withFailOnError at ok
    cases read : truth? value with
    | none => simp [read] at ok
    | some b =>
      simp only [read, Except.ok.injEq] at ok
      rw [← ok]

theorem runtimeTokens_eq_ok_iff {runtime : String} :
    c.runtimeTokens = .ok runtime ↔ runtimeTokens? c.runtimePath = some runtime := by
  unfold runtimeTokens
  cases runtimeTokens? c.runtimePath <;> simp

theorem runtimePath_of_ofEnvironment (configured : ofEnvironment e = .ok c) :
    c.runtimePath = (setting? e Variable.runtimeCrate).getD defaultRuntimePath ∧
      ∃ runtime, c.runtimeTokens = .ok runtime := by
  obtain ⟨name, _, rest⟩ := bind_eq_ok configured
  obtain ⟨withPolicy, policy, rest⟩ := bind_eq_ok rest
  obtain ⟨withFail, fail, rest⟩ := bind_eq_ok rest
  obtain ⟨runtime, tokens, rest⟩ := bind_eq_ok rest
  cases rest
  refine ⟨?_, runtime, tokens⟩
  rw [runtimePath_of_withFailOnError fail, runtimePath_of_withDuplicateSlots policy]
  rfl

end Config

end SlotBinding
