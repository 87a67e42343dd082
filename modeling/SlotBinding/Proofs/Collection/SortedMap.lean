import SlotBinding.Collection.SortedMap

/-!
# Laws of maps in the order of their keys

The look-up laws hold of all maps. `total_insert` and `mem_values_iff` are about maps whose keys stand in
increasing order, which every insertion keeps.
-/

namespace SlotBinding.SortedMap

variable {α : Type u}

theorem find?_put_self (k : String) (a : α) (es : List (String × α)) :
    (put k a es).find? (fun e => e.1 = k) = some (k, a) := by
  induction es with
  | nil => simp [put]
  | cons e rest ih =>
    rw [put]
    split
    · simp
    · rename_i different
      split
      · simp
      · rw [List.find?_cons_of_neg (by simpa using different), ih]

theorem find?_put_of_ne {j k : String} (different : j ≠ k) (a : α) (es : List (String × α)) :
    (put k a es).find? (fun e => e.1 = j) = es.find? (fun e => e.1 = j) := by
  induction es with
  | nil => simp [put, different.symm]
  | cons e rest ih =>
    rw [put]
    split
    · rename_i same
      have other : e.1 ≠ j := same ▸ different.symm
      simp [different.symm, other]
    · split
      · rw [List.find?_cons_of_neg (by simpa using different.symm)]
      · simp only [List.find?_cons, ih]

@[simp] theorem get?_empty (k : String) : ({} : SortedMap String α).get? k = none := rfl

@[simp] theorem get?_insert_self (m : SortedMap String α) (k : String) (a : α) :
    (m.insert k a).get? k = some a := by
  simp [get?, insert, find?_put_self]

theorem get?_insert_of_ne (m : SortedMap String α) {j k : String} (different : j ≠ k) (a : α) :
    (m.insert k a).get? j = m.get? j := by
  simp [get?, insert, find?_put_of_ne different]

/-! ### Sorted maps -/

def Sorted (m : SortedMap String α) : Prop := m.entries.Pairwise (fun e f => e.1 < f.1)

theorem sorted_empty : ({} : SortedMap String α).Sorted := List.Pairwise.nil

theorem lt_of_not_lt {j k : String} (different : j ≠ k) (notBelow : ¬k < j) : j < k :=
  Decidable.by_contra fun notAbove =>
    different (String.le_antisymm (String.not_lt.mp notBelow) (String.not_lt.mp notAbove))

theorem mem_put {k : String} {a : α} {es : List (String × α)} {e : String × α}
    (h : e ∈ put k a es) : e = (k, a) ∨ e ∈ es := by
  induction es with
  | nil => simpa [put] using h
  | cons f rest ih =>
    rw [put] at h
    split at h
    · exact (List.mem_cons.mp h).imp_right (List.mem_cons_of_mem _)
    · split at h
      · exact List.mem_cons.mp h
      · rcases List.mem_cons.mp h with rfl | later
        · exact Or.inr List.mem_cons_self
        · exact (ih later).imp_right (List.mem_cons_of_mem _)

theorem sorted_put {k : String} {a : α} {es : List (String × α)}
    (sorted : es.Pairwise (fun e f => e.1 < f.1)) : (put k a es).Pairwise (fun e f => e.1 < f.1) := by
  induction es with
  | nil => simp [put]
  | cons e rest ih =>
    obtain ⟨above, tail⟩ := List.pairwise_cons.mp sorted
    rw [put]
    split
    · rename_i same
      subst same
      exact List.pairwise_cons.mpr ⟨above, tail⟩
    · rename_i different
      split
      · rename_i below
        refine List.pairwise_cons.mpr ⟨?_, sorted⟩
        intro f member
        rcases List.mem_cons.mp member with rfl | later
        · exact below
        · exact String.lt_trans below (above f later)
      · rename_i notBelow
        refine List.pairwise_cons.mpr ⟨?_, ih tail⟩
        intro f member
        rcases mem_put member with rfl | later
        · exact lt_of_not_lt different notBelow
        · exact above f later

theorem sorted_insert {m : SortedMap String α} (sorted : m.Sorted) (k : String) (a : α) :
    (m.insert k a).Sorted := sorted_put sorted

theorem mem_entries_iff {m : SortedMap String α} (sorted : m.Sorted) {k : String} {a : α} :
    (k, a) ∈ m.entries ↔ m.get? k = some a := by
  obtain ⟨es⟩ := m
  simp only [Sorted, get?] at *
  induction es with
  | nil => simp
  | cons e rest ih =>
    obtain ⟨above, tail⟩ := List.pairwise_cons.mp sorted
    by_cases same : e.1 = k
    · have absent : (k, a) ∉ rest := by
        intro there
        have below : e.1 < k := above (k, a) there
        exact String.lt_irrefl k (same ▸ below)
      obtain ⟨j, b⟩ := e
      obtain rfl : j = k := same
      simp [absent, eq_comm]
    · have other : (k, a) ≠ e := fun equal => same (equal ▸ rfl)
      simp [same, other, ih tail]

theorem mem_values_iff {m : SortedMap String α} (sorted : m.Sorted) {a : α} :
    a ∈ m.values ↔ ∃ k, m.get? k = some a := by
  simp only [values, List.mem_map]
  constructor
  · rintro ⟨⟨k, b⟩, member, rfl⟩
    exact ⟨k, (mem_entries_iff sorted).mp member⟩
  · rintro ⟨k, found⟩
    exact ⟨(k, a), (mem_entries_iff sorted).mpr found, rfl⟩

theorem nodup_entries {m : SortedMap String α} (sorted : m.Sorted) : m.entries.Nodup := by
  refine List.Pairwise.imp ?_ sorted
  intro e f below equal
  rw [equal] at below
  exact String.lt_irrefl _ below

theorem eq_of_get? {m n : SortedMap String α} (sortedM : m.Sorted) (sortedN : n.Sorted)
    (same : ∀ k, m.get? k = n.get? k) : m = n := by
  have members : m.entries.Perm n.entries := by
    rw [List.perm_ext_iff_of_nodup (nodup_entries sortedM) (nodup_entries sortedN)]
    rintro ⟨k, a⟩
    rw [mem_entries_iff sortedM, mem_entries_iff sortedN, same]
  have entries : m.entries = n.entries := by
    refine List.Perm.eq_of_pairwise ?_ sortedM sortedN members
    intro e f _ _ below above
    exact absurd (String.lt_trans below above) (String.lt_irrefl _)
  obtain ⟨es⟩ := m
  exact congrArg SortedMap.mk entries

def mapValues {β : Type v} (f : α → β) (m : SortedMap String α) : SortedMap String β :=
  ⟨m.entries.map fun e => (e.1, f e.2)⟩

theorem sorted_mapValues {β : Type v} (f : α → β) {m : SortedMap String α} (sorted : m.Sorted) :
    (m.mapValues f).Sorted :=
  List.pairwise_map.mpr sorted

theorem get?_mapValues {β : Type v} (f : α → β) (m : SortedMap String α) (k : String) :
    (m.mapValues f).get? k = (m.get? k).map f := by
  simp [mapValues, get?, List.find?_map, Function.comp_def]

def total (f : α → Nat) (m : SortedMap String α) : Nat := m.values.foldr (fun a n => f a + n) 0

/-- An insertion changes a sum by the new value minus the replaced one. -/
theorem total_insert (f : α → Nat) {m : SortedMap String α} (sorted : m.Sorted) (k : String) (a : α) :
    (m.insert k a).total f + ((m.get? k).map f).getD 0 = m.total f + f a := by
  obtain ⟨es⟩ := m
  simp only [Sorted, insert, total, values, get?] at *
  induction es with
  | nil => simp [put]
  | cons e rest ih =>
    obtain ⟨above, tail⟩ := List.pairwise_cons.mp sorted
    rw [put]
    split
    · rename_i same
      simp [same]
      omega
    · rename_i different
      split
      · rename_i below
        -- The key is below all others, so nothing is replaced.
        have absent : rest.find? (fun e => e.1 = k) = none := by
          rw [List.find?_eq_none]
          intro g member equal
          obtain rfl : g.1 = k := by simpa using equal
          exact String.lt_irrefl _ (String.lt_trans below (above g member))
        simp [different, absent]
        omega
      · have rest := ih tail
        simp [different] at rest ⊢
        omega

theorem length_put_of_absent {k : String} {es : List (String × α)} (absent : ∀ e ∈ es, e.1 ≠ k) (a : α) :
    (put k a es).length = es.length + 1 := by
  induction es with
  | nil => rfl
  | cons e rest ih =>
    obtain ⟨different, others⟩ := List.forall_mem_cons.mp absent
    rw [put, if_neg different]
    split
    · rfl
    · rw [List.length_cons, ih others, List.length_cons]

theorem size_insert_of_none {m : SortedMap String α} {k : String} (free : m.get? k = none) (a : α) :
    (m.insert k a).size = m.size + 1 := by
  apply length_put_of_absent
  intro e member same
  rw [get?, Option.map_eq_none_iff, List.find?_eq_none] at free
  exact free e member (decide_eq_true same)

end SlotBinding.SortedMap
