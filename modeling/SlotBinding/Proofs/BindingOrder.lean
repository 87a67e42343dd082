import Mathlib.Data.List.Induction
import SlotBinding.Model.Host
import SlotBinding.Proofs.Collection.InsertionMap

/-!
# Bindings in the order of their slots

Fields are bound to slots in any order, and to some slots again. `lists_bindings`: whatever was bound, each
slot is listed once, where it was first bound, with the field that was last bound to it, and all that can be
asked of the bindings agrees with this list.
-/

namespace SlotBinding

namespace InsertionMap

variable {κ : Type u} {α : Type v} {es : List (κ × α)} {k : κ} {a : α}

/-- The value was inserted under the key, and no other one behind it. -/
def Last (es : List (κ × α)) (k : κ) (a : α) : Prop :=
  ∃ before behind, es = before ++ (k, a) :: behind ∧ ∀ e ∈ behind, e.1 ≠ k

theorem last_concat {e : κ × α} : Last (es ++ [e]) k a ↔ e = (k, a) ∨ e.1 ≠ k ∧ Last es k a := by
  constructor
  · rintro ⟨before, behind, split, others⟩
    obtain rfl | ⟨more, e', rfl⟩ := List.eq_nil_or_concat behind
    · exact .inl (List.singleton_inj.mp (List.append_inj_right' split rfl))
    · rw [List.concat_eq_append, ← List.cons_append, ← List.append_assoc] at split
      obtain ⟨rfl, same⟩ := List.append_inj' split rfl
      obtain rfl := List.singleton_inj.mp same
      exact .inr ⟨others e (by simp), before, more, rfl, fun f member => others f (by simp [member])⟩
  · rintro (rfl | ⟨other, before, behind, rfl, others⟩)
    · exact ⟨es, [], rfl, by simp⟩
    · refine ⟨before, behind ++ [e], by simp, fun f member => ?_⟩
      rcases List.mem_append.mp member with early | own
      · exact others f early
      · exact List.mem_singleton.mp own ▸ other

variable [DecidableEq κ]

def FirstBefore (es : List (κ × α)) (j k : κ) : Prop := (es.map (·.1)).idxOf j < (es.map (·.1)).idxOf k

theorem firstBefore_concat {j : κ} {e : κ × α} (first : j ∈ es.map (·.1)) (second : k ∈ es.map (·.1)) :
    FirstBefore (es ++ [e]) j k ↔ FirstBefore es j k := by
  rw [FirstBefore, List.map_append, List.idxOf_append_of_mem first, List.idxOf_append_of_mem second]
  rfl

theorem firstBefore_concat_self {j : κ} {e : κ × α} (first : j ∈ es.map (·.1)) (fresh : e.1 ∉ es.map (·.1)) :
    FirstBefore (es ++ [e]) j e.1 := by
  rw [FirstBefore, List.map_append, List.idxOf_append_of_mem first, List.idxOf_append_of_notMem fresh]
  exact Nat.lt_add_right _ (List.idxOf_lt_length_of_mem first)

def after (es : List (κ × α)) : InsertionMap κ α := es.foldl (fun m e => (m.replace e.1 e.2).2) {}

theorem after_concat (es : List (κ × α)) (e : κ × α) : after (es ++ [e]) = (after es).insert e.1 e.2 := by
  rw [after, List.foldl_concat, replace_eq]
  rfl

theorem distinct_after (es : List (κ × α)) : (after es).Distinct := by
  induction es using List.reverseRecOn with
  | nil => exact distinct_empty
  | append_singleton es e ih =>
    rw [after_concat]
    exact distinct_insert ih _ _

theorem mem_keys_after : k ∈ (after es).keys ↔ k ∈ es.map (·.1) := by
  induction es using List.reverseRecOn with
  | nil => simp [after, keys]
  | append_singleton es e ih =>
    rw [after_concat, keys_insert, List.map_append, List.mem_append, List.map_singleton, List.mem_singleton, ← ih]
    split
    · rename_i there
      exact ⟨Or.inl, fun either => either.elim id fun own => own ▸ there⟩
    · rw [List.mem_append, List.mem_singleton]

theorem keys_after_pairwise (es : List (κ × α)) : (after es).keys.Pairwise (FirstBefore es) := by
  induction es using List.reverseRecOn with
  | nil => exact .nil
  | append_singleton es e ih =>
    -- No insertion moves a key that is there.
    have kept : (after es).keys.Pairwise (FirstBefore (es ++ [e])) :=
      ih.imp_of_mem fun first second => (firstBefore_concat (mem_keys_after.mp first) (mem_keys_after.mp second)).mpr
    rw [after_concat, keys_insert]
    split
    · exact kept
    · rename_i fresh
      refine List.pairwise_append.mpr ⟨kept, List.pairwise_singleton _ _, fun j member k own => ?_⟩
      obtain rfl := List.mem_singleton.mp own
      exact firstBefore_concat_self (mem_keys_after.mp member) fun again => fresh (mem_keys_after.mpr again)

theorem get?_after : (after es).get? k = some a ↔ Last es k a := by
  induction es using List.reverseRecOn with
  | nil => simp [after, Last]
  | append_singleton es e ih =>
    rw [after_concat, last_concat]
    by_cases own : e.1 = k
    · subst own
      simp [Prod.ext_iff]
    · rw [get?_insert_of_ne _ (Ne.symm own), ih]
      simp [Prod.ext_iff, own]

end InsertionMap

/-! ### Bindings -/

namespace BindingMap

/-- The bindings list what was bound, and no operation tells anything else about them. -/
structure Lists (bound : List (Int32 × BoundField)) (m : BindingMap) : Prop where
  /-- Each slot is listed once. -/
  once : (m.toList.map (·.1)).Nodup
  slots : ∀ slot, slot ∈ m.toList.map (·.1) ↔ slot ∈ bound.map (·.1)
  /-- The slots are in the order in which they were first bound. -/
  order : (m.toList.map (·.1)).Pairwise (InsertionMap.FirstBefore bound)
  /-- A slot has the field that was last bound to it. -/
  fields : ∀ slot f, (slot, f) ∈ m.toList ↔ InsertionMap.Last bound slot f
  get : ∀ slot f, m.get? slot = some f ↔ (slot, f) ∈ m.toList
  contains : ∀ slot, m.contains slot = true ↔ slot ∈ m.toList.map (·.1)
  size : m.size = m.toList.length
  isEmpty : m.isEmpty = true ↔ m.toList = []
  /-- Binding a field gives back the one that the slot had before. -/
  returned : ∀ slot f, (m.replace slot f).1 = m.get? slot
  /-- A slot that is bound already keeps its place. -/
  replaced : ∀ slot f g before behind, m.toList = before ++ (slot, f) :: behind →
    (m.replace slot g).2.toList = before ++ (slot, g) :: behind
  /-- A slot that is not comes last. -/
  appended : ∀ slot f, m.get? slot = none → (m.replace slot f).2.toList = m.toList ++ [(slot, f)]
  /-- All other slots keep their fields and their order. -/
  others : ∀ slot f, (m.replace slot f).2.toList.filter (·.1 ≠ slot) = m.toList.filter (·.1 ≠ slot)

open InsertionMap in
/-- Fields that are bound one after the other, from no binding on. -/
theorem lists_bindings (bound : List (Int32 × BoundField)) : Lists bound (after bound) := by
  have distinct := distinct_after bound
  have get (slot : Int32) (f : BoundField) : (after bound).get? slot = some f ↔ (slot, f) ∈ (after bound).toList :=
    (mem_toList_iff distinct).symm
  constructor
  case once => exact distinct
  case slots => exact fun slot => mem_keys_after
  case order => exact keys_after_pairwise bound
  case fields => exact fun slot f => (get slot f).symm.trans get?_after
  case get => exact get
  case contains =>
    intro slot
    rw [contains, Option.isSome_iff_ne_none, ne_eq, get?_eq_none_iff]
    exact Decidable.not_not
  case size => rfl
  case isEmpty => exact List.isEmpty_iff
  case returned => exact fun slot f => congrArg Prod.fst (replace_eq _ slot f)
  case replaced =>
    intro slot f g before behind split
    have absent : slot ∉ before.map (·.1) := by
      have nodup : ((after bound).toList.map (·.1)).Nodup := distinct
      rw [split, List.map_append, List.nodup_append] at nodup
      exact fun early => nodup.2.2 slot early slot (by simp) rfl
    rw [replace_eq]
    show put slot g (after bound).toList = _
    rw [split, put_append_cons absent]
  case appended =>
    intro slot f free
    rw [replace_eq]
    exact put_of_not_mem (get?_eq_none_iff.mp free) f
  case others =>
    intro slot f
    rw [replace_eq]
    exact filter_put slot f _

/-- A slot that is bound again keeps its place. -/
example (a b c : BoundField) :
    (InsertionMap.after [(10, a), (20, b), (10, c)] : BindingMap).toList = [(10, c), (20, b)] := rfl

end BindingMap

end SlotBinding
