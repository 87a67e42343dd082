import Mathlib.Data.List.Forall2

/-!
# Results

A computation with a result has come through all its steps. A check that a result passes says that there is one, and
a list whose elements all have results has the list of these.
-/

namespace SlotBinding

theorem bind_eq_ok {α : Type u} {β : Type v} {ε : Type w} {x : Except ε α} {f : α → Except ε β} {b : β}
    (ok : x.bind f = .ok b) : ∃ a, x = .ok a ∧ f a = .ok b := by
  cases x with
  | error e => cases ok
  | ok a => exact ⟨a, rfl, ok⟩

section One

variable {ε : Type u} {α : Type v} {σ : Type w}

theorem eq_ok_of_toOption {x : Except ε α} {a : α} (found : x.toOption = some a) : x = .ok a := by
  cases x with
  | error e => cases found
  | ok b => exact congrArg Except.ok (Option.some.inj found)

theorem exists_ok_of_any {x : Except ε α} {p : α → Bool} (passes : x.toOption.any p = true) :
    ∃ a, x = .ok a ∧ p a = true := by
  obtain ⟨a, found, checked⟩ := (Option.any_eq_true _ _).mp passes
  exact ⟨a, eq_ok_of_toOption found, checked⟩

theorem exists_run_of_both {x : Except ε α × σ} {p : α → σ → Bool}
    (passes : x.1.toOption.any (p · x.2) = true) : ∃ a s, x = (.ok a, s) ∧ p a s = true := by
  obtain ⟨a, found, checked⟩ := exists_ok_of_any passes
  exact ⟨a, x.2, Prod.ext found rfl, checked⟩

theorem exists_run_of_any {x : Except ε α × σ} {p : α → Bool} (passes : x.1.toOption.any p = true) :
    ∃ a s, x = (.ok a, s) ∧ p a = true :=
  exists_run_of_both (p := fun a _ => p a) passes

theorem exists_run_of_isOk {x : Except ε α × σ} (ok : x.1.isOk = true) : ∃ a s, x = (.ok a, s) := by
  obtain ⟨_ | a, s⟩ := x
  · cases ok
  · exact ⟨a, s, rfl⟩

end One

section Each

variable {ε : Type u} {α : Type v} {β : Type w} {f : α → Except ε β} {xs : List α}

theorem exists_mapM_forall₂ {R : α → β → Prop} (each : ∀ x ∈ xs, ∃ y, f x = .ok y ∧ R x y) :
    ∃ ys, xs.mapM f = .ok ys ∧ List.Forall₂ R xs ys := by
  induction xs with
  | nil => exact ⟨[], rfl, .nil⟩
  | cons x rest ih =>
    obtain ⟨y, made, own⟩ := each x List.mem_cons_self
    obtain ⟨ys, others, all⟩ := ih fun x' member => each x' (List.mem_cons_of_mem _ member)
    exact ⟨y :: ys, by rw [List.mapM_cons, made, others]; rfl, .cons own all⟩

theorem exists_mapM_ok (each : ∀ x ∈ xs, ∃ y, f x = .ok y) : ∃ ys, xs.mapM f = .ok ys := by
  have any : ∀ x ∈ xs, ∃ y, f x = .ok y ∧ True := by simpa using each
  obtain ⟨ys, made, -⟩ := exists_mapM_forall₂ any
  exact ⟨ys, made⟩

end Each

end SlotBinding
