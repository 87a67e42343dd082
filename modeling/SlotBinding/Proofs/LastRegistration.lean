import Mathlib.Data.List.Dedup
import SlotBinding.Proofs.BinderTable
import SlotBinding.Proofs.Registration

/-!
# A registry is the map of the last registrations

Whatever the calls were, a registry says no more than which binder came last under each name, and two
registries that agree in this are one. `after_holds_last` reads all observations of a registry off the list
of the binders that were registered, and from there that a table can be installed again, and two tables
without a common name in either order.
-/

namespace SlotBinding

namespace SortedMap

variable {α : Type u} {m : SortedMap String α}

theorem keys_increasing (sorted : m.Sorted) : m.keys.Pairwise (· < ·) :=
  List.pairwise_map.mpr sorted

theorem mem_keys_iff (sorted : m.Sorted) {k : String} : k ∈ m.keys ↔ ∃ a, m.get? k = some a := by
  simp only [keys, List.mem_map]
  constructor
  · rintro ⟨⟨j, a⟩, member, rfl⟩
    exact ⟨a, (mem_entries_iff sorted).mp member⟩
  · rintro ⟨a, held⟩
    exact ⟨(k, a), (mem_entries_iff sorted).mpr held, rfl⟩

theorem nodup_keys (sorted : m.Sorted) : m.keys.Nodup := by
  apply List.Pairwise.imp _ (keys_increasing sorted)
  intro j k below same
  exact String.lt_irrefl k (same ▸ below)

/-- A sorted map whose keys are the members of a list has as many entries as the list has members. -/
theorem size_eq_of_mem_keys_iff (sorted : m.Sorted) {ks : List String} (members : ∀ k, k ∈ m.keys ↔ k ∈ ks) :
    m.size = ks.dedup.length := by
  have same : m.keys.Perm ks.dedup := by
    rw [List.perm_ext_iff_of_nodup (nodup_keys sorted) ks.nodup_dedup]
    intro k
    rw [members, List.mem_dedup]
  rw [← same.length_eq, keys, List.length_map]
  rfl

end SortedMap

namespace Registry

variable {n : String} {b : Binder} {bs cs : List Binder}

theorem lastNamed?_eq_some_iff :
    lastNamed? n bs = some b ↔
      ∃ before rest, bs = before ++ b :: rest ∧ b.name = n ∧ ∀ c ∈ rest, c.name ≠ n := by
  rw [lastNamed?, List.find?_eq_some_iff_append]
  constructor
  · rintro ⟨own, rest, before, split, others⟩
    refine ⟨before.reverse, rest.reverse, ?_, of_decide_eq_true own, ?_⟩
    · rw [← List.reverse_reverse bs, split]
      simp
    · intro c member
      have other := others c (List.mem_reverse.mp member)
      simpa using other
  · rintro ⟨before, rest, rfl, own, others⟩
    refine ⟨decide_eq_true own, rest.reverse, before.reverse, by simp, ?_⟩
    intro c member
    have other := others c (List.mem_reverse.mp member)
    simpa using other

theorem lastNamed?_eq_none_iff : lastNamed? n bs = none ↔ ∀ b ∈ bs, b.name ≠ n := by
  simp [lastNamed?]

theorem exists_lastNamed?_iff : (∃ b, lastNamed? n bs = some b) ↔ n ∈ bs.map (·.name) := by
  rw [← Option.isSome_iff_exists, Option.isSome_iff_ne_none, ne_eq, lastNamed?_eq_none_iff]
  simp

theorem lastNamed?_append_self (n : String) (bs cs : List Binder) :
    lastNamed? n (bs ++ cs ++ cs) = lastNamed? n (bs ++ cs) := by
  simp only [lastNamed?_append]
  rw [← Option.or_assoc, Option.or_self]

theorem lastNamed?_append_comm (disjoint : ∀ b ∈ bs, ∀ c ∈ cs, b.name ≠ c.name) (n : String) :
    lastNamed? n (bs ++ cs) = lastNamed? n (cs ++ bs) := by
  rw [lastNamed?_append, lastNamed?_append]
  cases first : lastNamed? n bs with
  | none => rw [Option.or_none, Option.none_or]
  | some b =>
    have absent : lastNamed? n cs = none := by
      rw [lastNamed?_eq_none_iff]
      intro c member same
      apply disjoint b (mem_of_lastNamed? first) c member
      rw [name_of_lastNamed? first, same]
    rw [absent, Option.or_none, Option.none_or]

/-! ### What the calls have made -/

/-- The registry holds the last binder of each name, and nothing else. -/
structure HoldsLast (r : Registry) (bs : List Binder) : Prop where
  sorted : r.Sorted
  held : ∀ n, r.get? n = lastNamed? n bs

namespace HoldsLast

variable {r s : Registry}

theorem empty : HoldsLast {} [] where
  sorted := SortedMap.sorted_empty
  held _ := rfl

theorem register (h : HoldsLast r bs) (b : Binder) : HoldsLast (r.register b).2 (bs ++ [b]) where
  sorted := SortedMap.sorted_insert h.sorted b.name b
  held n := by rw [get?_register, h.held, lastNamed?_append]

theorem install (h : HoldsLast r bs) (table : List Binder) : HoldsLast (r.install table) (bs ++ table) := by
  induction table generalizing r bs with
  | nil => rwa [List.append_nil]
  | cons b rest ih =>
    have step := ih (h.register b)
    rwa [List.append_assoc, List.singleton_append] at step

theorem run (h : HoldsLast r bs) (call : Call) : HoldsLast (call.run r) (bs ++ call.binders) := by
  cases call with
  | register b => exact h.register b
  | install table => exact h.install table

theorem foldl_run (h : HoldsLast r bs) (calls : List Call) :
    HoldsLast (calls.foldl Call.run r) (bs ++ registered calls) := by
  induction calls generalizing r bs with
  | nil =>
    rw [registered, List.flatMap_nil, List.append_nil]
    exact h
  | cons call rest ih =>
    have step := ih (h.run call)
    rwa [List.append_assoc] at step

/-- The last binders determine the registry. -/
theorem unique (h : HoldsLast r bs) (k : HoldsLast s cs) (same : ∀ n, lastNamed? n bs = lastNamed? n cs) :
    r = s := by
  apply SortedMap.eq_of_get? h.sorted k.sorted
  intro n
  rw [h.held, k.held, same]

theorem mem_keys_iff (h : HoldsLast r bs) {n : String} : n ∈ r.keys ↔ n ∈ bs.map (·.name) := by
  rw [SortedMap.mem_keys_iff h.sorted, h.held, exists_lastNamed?_iff]

theorem install_twice (h : HoldsLast r bs) (table : List Binder) :
    (r.install table).install table = r.install table :=
  ((h.install table).install table).unique (h.install table) fun n => lastNamed?_append_self n bs table

theorem install_comm (h : HoldsLast r bs) {a c : List Binder} (disjoint : ∀ x ∈ a, ∀ y ∈ c, x.name ≠ y.name) :
    (r.install a).install c = (r.install c).install a := by
  apply ((h.install a).install c).unique ((h.install c).install a)
  intro n
  rw [List.append_assoc, List.append_assoc, lastNamed?_append, lastNamed?_append_comm disjoint,
    ← lastNamed?_append]

end HoldsLast

theorem holdsLast_after (calls : List Call) : HoldsLast (after calls) (registered calls) :=
  HoldsLast.empty.foldl_run calls

theorem after_append_register (calls : List Call) (b : Binder) :
    after (calls ++ [.register b]) = ((after calls).register b).2 := by
  rw [after, List.foldl_append]
  rfl

/-- All that can be observed of a registry after any calls follows from the binders that they registered, in
their order. The names are in the order of their bytes. -/
theorem after_holds_last (calls : List Call) :
    let r := after calls
    let bs := registered calls
    (∀ n b, r.get? n = some b ↔
      ∃ before rest, bs = before ++ b :: rest ∧ b.name = n ∧ ∀ c ∈ rest, c.name ≠ n) ∧
    (∀ n, r.get? n = none ↔ ∀ b ∈ bs, b.name ≠ n) ∧
    (∀ n, r.contains n = true ↔ ∃ b, r.get? n = some b) ∧
    r.size = (bs.map (·.name)).dedup.length ∧
    r.keys.Pairwise (fun m n => Text.bytes m < Text.bytes n) ∧
    (∀ n, n ∈ r.keys ↔ n ∈ bs.map (·.name)) ∧
    (∀ b, r.register b = (r.get? b.name, after (calls ++ [.register b]))) ∧
    (∀ table, (r.install table).install table = r.install table) ∧
    ∀ a c, (∀ x ∈ a, ∀ y ∈ c, x.name ≠ y.name) →
      (r.install a).install c = (r.install c).install a := by
  intro r bs
  have holds : HoldsLast r bs := holdsLast_after calls
  refine ⟨fun n b => ?last, fun n => ?absent, fun n => ?contains, ?size, ?sorted,
    fun n => holds.mem_keys_iff, fun b => ?register, holds.install_twice, fun a c => holds.install_comm⟩
  case last => rw [holds.held, lastNamed?_eq_some_iff]
  case absent => rw [holds.held, lastNamed?_eq_none_iff]
  case contains => exact Option.isSome_iff_exists
  case size => exact SortedMap.size_eq_of_mem_keys_iff holds.sorted fun n => holds.mem_keys_iff
  case sorted => exact (SortedMap.keys_increasing holds.sorted).imp Text.bytes_lt_bytes
  case register => rw [after_append_register]; rfl

/-- A table that names one binder twice, a replacement from outside it, and two tables without a common
name. -/
theorem after_holds_last_of_repeated_names :
    let home (version : Nat) : Binder :=
      { name := "app::Home$$Bind", version, host := ⟨"app::Home", "app::Home"⟩ }
    let user (version : Nat) : Binder :=
      { name := "app::User$$Bind", version, host := ⟨"app::User", "app::User"⟩ }
    let calls : List Call := [.install [home 1, user 1, home 2], .register (home 3)]
    let r := after calls
    (∀ x ∈ [home 4, home 5], ∀ y ∈ [user 4], x.name ≠ y.name) ∧
      r.get? "app::Home$$Bind" = some (home 3) ∧
      r.size = 2 ∧
      (r.install [home 4, home 5]).install [user 4] = (r.install [user 4]).install [home 4, home 5] := by
  intro home user calls r
  obtain ⟨last, _, _, size, _, _, _, _, commutes⟩ := after_holds_last calls
  have disjoint : ∀ x ∈ [home 4, home 5], ∀ y ∈ [user 4], x.name ≠ y.name := by decide
  refine ⟨disjoint, ?_, ?_, commutes _ _ disjoint⟩
  · exact (last _ _).mpr ⟨[home 1, user 1, home 2], [], rfl, rfl, by simp⟩
  · rw [size]
    decide

end Registry

end SlotBinding
