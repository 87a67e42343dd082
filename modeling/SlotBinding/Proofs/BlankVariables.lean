import SlotBinding.Proofs.Config
import SlotBinding.Proofs.Text.Trim

/-!
# Blank variables and blanks around values

A configuration takes every value without the blanks at its ends, and a blank setting counts as not set.
`ofEnvironment_of_blanks` says so, and when the name of the crate, which is read on another way, does the same.
-/

namespace SlotBinding.Config

variable {e : Environment} {n : String}

theorem trimmed_set {padded value : String} (pads : Text.Pads padded value) (e : Environment) (n m : String) :
    ((e.set n (.text padded)).get? m).map Text.trim = ((e.set n (.text value)).get? m).map Text.trim := by
  by_cases here : m = n
  · subst here
    rw [Environment.get?_set_self, Environment.get?_set_self, Option.map_some, Option.map_some,
      Text.trim_of_pads pads]
  · rw [Environment.get?_set_of_ne e here, Environment.get?_set_of_ne e here]

theorem setting?_of_blank {blank : String} (isBlank : Text.Blank blank) (e : Environment) (n m : String) :
    setting? (e.set n (.text blank)) m = setting? (e.unset n) m := by
  by_cases here : m = n
  · subst here
    rw [setting?, setting?, Environment.get?_set_self, Environment.get?_unset_self, Option.map_some,
      Text.trim_eq_empty_iff.mpr isBlank]
    rfl
  · rw [setting?, setting?, Environment.get?_set_of_ne e here, Environment.get?_unset_of_ne e here]

theorem ofEnvironment_of_blank_setting {blank : String} (isBlank : Text.Blank blank) (e : Environment)
    (setting : n ∈ settings) : ofEnvironment (e.set n (.text blank)) = ofEnvironment (e.unset n) := by
  have crate : Variable.crateName ≠ n := by
    rintro rfl
    revert setting
    decide
  have package : Variable.packageName ≠ n := by
    rintro rfl
    revert setting
    decide
  refine ofEnvironment_congr ?_ fun m _ => setting?_of_blank isBlank e n m
  rw [givenName?, givenName?, Environment.get?_set_of_ne e crate, Environment.get?_set_of_ne e package,
    Environment.get?_unset_of_ne e crate, Environment.get?_unset_of_ne e package]

theorem ofCrate_of_blank {blank : String} (isBlank : Text.Blank blank) : ofCrate blank = { crateName := "" } := by
  rw [ofCrate, Text.trim_eq_empty_iff.mpr isBlank]
  rfl

theorem ofEnvironment_of_blank_name {blank : String} (isBlank : Text.Blank blank) (e : Environment) :
    ofEnvironment (e.set Variable.crateName (.text blank)) =
      ({ crateName := "" } : Config).configured (e.unset Variable.crateName) := by
  have given : givenName? (e.set Variable.crateName (.text blank)) = some blank := by
    rw [givenName?, Environment.get?_set_self]
    rfl
  rw [ofEnvironment_of_name given, ofCrate_of_blank isBlank]
  exact configured_congr (fun m _ => setting?_of_blank isBlank e _ m) _

/-- A blank name counts as not set where the package has a blank name, too, or the settings are faulty. -/
theorem blank_name_is_unset_iff {blank : String} (isBlank : Text.Blank blank) (e : Environment) :
    ofEnvironment (e.set Variable.crateName (.text blank)) = ofEnvironment (e.unset Variable.crateName) ↔
      ∃ package, e.get? Variable.packageName = some package ∧
        (Text.Blank package ∨ ∃ cause, ofEnvironment (e.unset Variable.crateName) = .error cause) := by
  have other : Variable.packageName ≠ Variable.crateName := by decide
  have given : givenName? (e.unset Variable.crateName) = e.get? Variable.packageName := by
    rw [givenName?, Environment.get?_unset_self, Environment.get?_unset_of_ne e other, Option.none_or]
  rw [ofEnvironment_of_blank_name isBlank]
  cases package : e.get? Variable.packageName with
  | none =>
    rw [ofEnvironment_of_no_name (given.trans package)]
    simp [configured_ne_missingVariable]
  | some name =>
    rw [ofEnvironment_of_name (given.trans package)]
    have own : ({ crateName := "" } : Config) = (ofCrate name).named "" := rfl
    rw [own, configured_named]
    cases made : (ofCrate name).configured (e.unset Variable.crateName) with
    | error cause => simp [Except.map]
    | ok d =>
      have crate := crateName_of_configured made
      have emptied : d.crateName = "" ↔ Text.Blank name := by
        rw [crate, ofCrate, Text.replaceChar_eq_empty_iff, Text.trim_eq_empty_iff]
      have same : d.named "" = d ↔ d.crateName = "" := by
        constructor
        · intro same
          rw [← same]
          rfl
        · intro empty
          rw [named, ← empty]
      simp [Except.map, same, emptied]

/-- A blank setting counts as not set; a blank name of the crate is its name, so that it counts as not set only
where that makes no difference. Blanks around a value never make one. -/
theorem ofEnvironment_of_blanks (e : Environment) :
    (∀ n ∈ settings, ∀ blank, Text.Blank blank →
      ofEnvironment (e.set n (.text blank)) = ofEnvironment (e.unset n)) ∧
    (∀ blank, Text.Blank blank →
      (∀ c, ofEnvironment (e.set Variable.crateName (.text blank)) = .ok c → c.crateName = "") ∧
      (ofEnvironment (e.set Variable.crateName (.text blank)) = ofEnvironment (e.unset Variable.crateName) ↔
        ∃ package, e.get? Variable.packageName = some package ∧
          (Text.Blank package ∨ ∃ cause, ofEnvironment (e.unset Variable.crateName) = .error cause))) ∧
    ∀ n value padded, Text.Pads padded value →
      ofEnvironment (e.set n (.text padded)) = ofEnvironment (e.set n (.text value)) := by
  refine ⟨fun n setting blank isBlank => ofEnvironment_of_blank_setting isBlank e setting,
    fun blank isBlank => ⟨fun c configured => ?_, blank_name_is_unset_iff isBlank e⟩,
    fun n value padded pads => ofEnvironment_of_same_trimmed (trimmed_set pads e n)⟩
  rw [ofEnvironment_of_blank_name isBlank] at configured
  exact crateName_of_configured configured

/-- A blank name hides the name of the package. -/
theorem blank_name_is_kept :
    let e := Environment.ofList [("CARGO_PKG_NAME", .text "app"), ("VIEWBIND_CRATE_NAME", .text " \t")]
    ofEnvironment e = .ok { crateName := "" } ∧
      ofEnvironment (e.unset Variable.crateName) = .ok { crateName := "app" } := by
  constructor <;> decide +kernel

end SlotBinding.Config
