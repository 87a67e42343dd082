import Mathlib.Data.List.Basic
import SlotBinding.Collection.InsertionMap

/-!
# Laws of maps in insertion order

`get?_insert_self`, `get?_insert_of_ne` and `size_insert` say what an insertion does, and `replace_eq` that
one pass over the entries does it and finds the replaced value. The other laws are about maps in which no key
stands twice.
-/

namespace SlotBinding.InsertionMap

variable {κ : Type u} {α : Type v} [DecidableEq κ]

theorem find?_put_self (k : κ) (a : α) (es : List (κ × α)) :
    (put k a es).find? (fun e => e.1 = k) = some (k, a) := by
  induction es with
  | nil => simp [put]
  | cons e rest ih =>
    rw [put]
    split
    · simp
    · rename_i different
      rw [List.find?_cons_of_neg (by simpa using different), ih]

theorem find?_put_of_ne {j k : κ} (different : j ≠ k) (a : α) (es : List (κ × α)) :
    (put k a es).find? (fun e => e.1 = j) = es.find? (fun e => e.1 = j) := by
  induction es with
  | nil => simp [put, different.symm]
  | cons e rest ih =>
    rw [put]
    split
    · rename_i same
      have other : e.1 ≠ j := same ▸ different.symm
      simp [different.symm, other]
    · simp only [List.find?_cons, ih]

@[simp] theorem get?_empty (k : κ) : ({} : InsertionMap κ α).get? k = none := rfl

@[simp] theorem get?_insert_self (m : InsertionMap κ α) (k : κ) (a : α) :
    (m.insert k a).get? k = some a := by
  simp [get?, insert, find?_put_self]

theorem get?_insert_of_ne (m : InsertionMap κ α) {j k : κ} (different : j ≠ k) (a : α) :
    (m.insert k a).get? j = m.get? j := by
  simp [get?, insert, find?_put_of_ne different]

theorem get?_erase_self (m : InsertionMap κ α) (k : κ) : (m.erase k).get? k = none := by
  rw [get?, Option.map_eq_none_iff, List.find?_eq_none]
  intro e member
  simpa [erase] using (List.mem_filter.mp member).2

theorem get?_erase_of_ne (m : InsertionMap κ α) {j k : κ} (different : j ≠ k) : (m.erase k).get? j = m.get? j := by
  rw [get?, get?, erase, List.find?_filter]
  congr 2
  funext e
  by_cases own : e.1 = j <;> simp [own, different]

theorem insert_of_get? {m : InsertionMap κ α} {k : κ} {a : α} (held : m.get? k = some a) : m.insert k a = m := by
  obtain ⟨es⟩ := m
  show InsertionMap.mk (put k a es) = ⟨es⟩
  congr 1
  induction es with
  | nil => cases held
  | cons e rest ih =>
    rw [put]
    unfold get? at held ih
    rw [List.find?_cons] at held
    split at held
    · rename_i here
      have key : e.1 = k := of_decide_eq_true here
      obtain rfl : e.2 = a := Option.some.inj held
      rw [if_pos key, ← key]
    · rename_i other
      have apart : e.1 ≠ k := of_decide_eq_false other
      rw [if_neg apart, ih held]

theorem get?_eq_none_iff {m : InsertionMap κ α} {k : κ} : m.get? k = none ↔ k ∉ m.keys := by
  simp only [get?, keys, Option.map_eq_none_iff, List.find?_eq_none, decide_eq_true_eq, List.mem_map,
    not_exists, not_and]

theorem map_put (k : κ) (a : α) (es : List (κ × α)) :
    (put k a es).map (·.1) =
      if k ∈ es.map (·.1) then es.map (·.1) else es.map (·.1) ++ [k] := by
  induction es with
  | nil => simp [put]
  | cons e rest ih =>
    rw [put]
    by_cases same : e.1 = k
    · simp [same]
    · by_cases later : k ∈ rest.map (·.1) <;> simp_all [Ne.symm same]

theorem keys_insert (m : InsertionMap κ α) (k : κ) (a : α) :
    (m.insert k a).keys = if k ∈ m.keys then m.keys else m.keys ++ [k] :=
  map_put k a m.entries

theorem size_insert (m : InsertionMap κ α) (k : κ) (a : α) :
    (m.insert k a).size = if (m.get? k).isSome then m.size else m.size + 1 := by
  have lengths := congrArg List.length (keys_insert m k a)
  have size_keys : ∀ m : InsertionMap κ α, m.keys.length = m.size := fun m => by simp [keys, size]
  rw [size_keys] at lengths
  rw [lengths]
  by_cases there : k ∈ m.keys
  · have found : (m.get? k).isSome := by
      rw [Option.isSome_iff_ne_none]
      exact fun absent => get?_eq_none_iff.mp absent there
    simp [there, found, size_keys]
  · simp [there, get?_eq_none_iff.mpr there, size_keys]

theorem put_of_not_mem {k : κ} {es : List (κ × α)} (absent : k ∉ es.map (·.1)) (a : α) :
    put k a es = es ++ [(k, a)] := by
  induction es with
  | nil => rfl
  | cons e rest ih =>
    rw [List.map_cons, List.mem_cons, not_or] at absent
    rw [put, if_neg (Ne.symm absent.1), ih absent.2, List.cons_append]

theorem put_append_cons {k : κ} {before : List (κ × α)} (absent : k ∉ before.map (·.1)) (a b : α)
    (behind : List (κ × α)) : put k a (before ++ (k, b) :: behind) = before ++ (k, a) :: behind := by
  induction before with
  | nil => simp [put]
  | cons e rest ih =>
    rw [List.map_cons, List.mem_cons, not_or] at absent
    rw [List.cons_append, put, if_neg (Ne.symm absent.1), ih absent.2, List.cons_append]

theorem filter_put (k : κ) (a : α) (es : List (κ × α)) :
    (put k a es).filter (·.1 ≠ k) = es.filter (·.1 ≠ k) := by
  induction es with
  | nil => simp [put]
  | cons e rest ih =>
    rw [put]
    split
    · rename_i own
      simp [own]
    · simp only [List.filter_cons, ih]

theorem exchange_eq (k : κ) (a : α) (es : List (κ × α)) :
    exchange k a es = ((es.find? fun e => e.1 = k).map (·.2), put k a es) := by
  induction es with
  | nil => rfl
  | cons e rest ih =>
    rw [exchange, put, List.find?_cons]
    by_cases own : e.1 = k
    · simp [own]
    · simp [own, ih]

theorem replace_eq (m : InsertionMap κ α) (k : κ) (a : α) : m.replace k a = (m.get? k, m.insert k a) := by
  rw [replace, exchange_eq]
  rfl

def Distinct (m : InsertionMap κ α) : Prop := m.keys.Nodup

omit [DecidableEq κ] in
theorem distinct_empty : ({} : InsertionMap κ α).Distinct := List.nodup_nil

theorem distinct_insert {m : InsertionMap κ α} (distinct : m.Distinct) (k : κ) (a : α) :
    (m.insert k a).Distinct := by
  unfold Distinct
  rw [keys_insert]
  split
  · exact distinct
  · rename_i absent
    rw [List.nodup_append]
    refine ⟨distinct, by simp, ?_⟩
    intro j there l fresh same
    obtain rfl := List.mem_singleton.mp fresh
    exact absent (same ▸ there)

theorem mem_toList_of_get? {m : InsertionMap κ α} {k : κ} {a : α} (held : m.get? k = some a) :
    (k, a) ∈ m.toList := by
  obtain ⟨e, found, rfl⟩ := Option.map_eq_some_iff.mp held
  obtain rfl : e.1 = k := by simpa using List.find?_some found
  exact List.mem_of_find?_eq_some found

theorem mem_toList_iff {m : InsertionMap κ α} (distinct : m.Distinct) {k : κ} {a : α} :
    (k, a) ∈ m.toList ↔ m.get? k = some a := by
  obtain ⟨es⟩ := m
  simp only [Distinct, keys, toList, get?] at *
  induction es with
  | nil => simp
  | cons e rest ih =>
    simp only [List.map_cons, List.nodup_cons] at distinct
    by_cases same : e.1 = k
    · have absent : (k, a) ∉ rest := fun there =>
        distinct.1 (same ▸ List.mem_map.mpr ⟨_, there, rfl⟩)
      obtain ⟨j, b⟩ := e
      obtain rfl : j = k := same
      simp [absent, eq_comm]
    · have other : (k, a) ≠ e := fun equal => same (equal ▸ rfl)
      simp [same, other, ih distinct.2]

omit [DecidableEq κ] in
theorem toList_of_isEmpty {m : InsertionMap κ α} (empty : m.isEmpty = true) : m.toList = [] :=
  List.isEmpty_iff.mp empty

theorem toList_eq {m : InsertionMap κ α} (distinct : m.Distinct) :
    m.toList = m.keys.filterMap fun k => (m.get? k).map (k, ·) := by
  have own : ∀ e ∈ m.toList, (m.get? e.1).map (e.1, ·) = some e := by
    intro e member
    rw [(mem_toList_iff distinct).mp member, Option.map_some]
  rw [keys, List.filterMap_map]
  exact ((List.filterMap_congr own).trans List.filterMap_some).symm

end SlotBinding.InsertionMap
