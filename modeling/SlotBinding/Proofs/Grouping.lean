import SlotBinding.Generation.Grouping
import SlotBinding.Proofs.Collection.InsertionMap
import SlotBinding.Proofs.Collection.SortedMap

/-!
# The models that grouping makes

`models_add` and `diagnostics_add` say all that one site does. `get?_ofSites` follows from them: the
model of a host is a fold over the sites of that host alone.
-/

namespace SlotBinding

namespace Host

theorem qualifiedName_eq (h : Host) :
    h.qualifiedName = h.crateName ++ String.join ((h.modulePath ++ [h.name]).map ("::" ++ ·)) := by
  have split : ∀ (first : String) (more : List String),
      "::".intercalate (first :: more) = first ++ String.join (more.map ("::" ++ ·)) := by
    intro first more
    induction more generalizing first with
    | nil => simp
    | cons second rest ih => rw [String.intercalate_cons_cons, ih]; simp [String.append_assoc]
  exact split h.crateName (h.modulePath ++ [h.name])

def visible (crateName : String) (modulePath : List String) (name : String) : Host :=
  { crateName, modulePath, name, access := .public, generic := false, sealedModule := none, cfg := []
    location := {} }

def site (h : Host) (slot : Int32) (field : String) (access : Access := .public) : Site :=
  { location := {}, slot := .id slot
    element := .field h (.named field) [.ofWord "Label"] access }

end Host

namespace HostModel

theorem qualifiedName_ofHost (h : Host) : (ofHost h).qualifiedName = h.qualifiedName :=
  (Host.qualifiedName_eq h).symm

/-- What of a model its host gives: everything but the bindings. -/
def header (m : HostModel) : HostModel := { m with bindings := {} }

theorem qualifiedName_header (m : HostModel) : m.header.qualifiedName = m.qualifiedName := rfl

theorem artifactFile_header (m : HostModel) : m.header.artifactFile = m.artifactFile := rfl

/-- The model after one more site of its host. -/
def absorb (policy : DuplicatePolicy) (m : HostModel) (v : ValidSite) : HostModel :=
  match policy, m.bindings.get? v.slot with
  | .deny, some _ => m
  | _, _ => m.bind v.slot v.field

def extend (policy : DuplicatePolicy) (m : Option HostModel) (v : ValidSite) : Option HostModel :=
  some ((m.getD (ofHost v.host)).absorb policy v)

theorem absorb_of_none {m : HostModel} {v : ValidSite} (fresh : m.bindings.get? v.slot = none)
    (policy : DuplicatePolicy) : m.absorb policy v = m.bind v.slot v.field := by
  cases policy <;> simp [absorb, fresh]

theorem absorb_warn (m : HostModel) (v : ValidSite) :
    m.absorb .warn v = m.bind v.slot v.field := by
  simp [absorb]

theorem absorb_deny_of_some {m : HostModel} {v : ValidSite} {f : BoundField}
    (bound : m.bindings.get? v.slot = some f) : m.absorb .deny v = m := by
  simp [absorb, bound]

theorem header_absorb (policy : DuplicatePolicy) (m : HostModel) (v : ValidSite) :
    (m.absorb policy v).header = m.header := by
  unfold absorb
  split <;> rfl

theorem distinct_absorb {m : HostModel} (distinct : m.bindings.Distinct) (policy : DuplicatePolicy)
    (v : ValidSite) : (m.absorb policy v).bindings.Distinct := by
  unfold absorb
  split
  · exact distinct
  · exact InsertionMap.distinct_insert distinct _ _

theorem size_absorb (policy : DuplicatePolicy) (m : HostModel) (v : ValidSite) :
    (m.absorb policy v).bindings.size =
      if (m.bindings.get? v.slot).isSome then m.bindings.size else m.bindings.size + 1 := by
  unfold absorb
  split
  · rename_i bound
    simp [bound]
  · exact InsertionMap.size_insert _ _ _

theorem foldl_extend_some (policy : DuplicatePolicy) (m : HostModel) (vs : List ValidSite) :
    vs.foldl (extend policy) (some m) = some (vs.foldl (absorb policy) m) := by
  induction vs generalizing m with
  | nil => rfl
  | cons v rest ih => exact ih (m.absorb policy v)

theorem header_foldl_absorb (policy : DuplicatePolicy) (m : HostModel) (vs : List ValidSite) :
    (vs.foldl (absorb policy) m).header = m.header := by
  induction vs generalizing m with
  | nil => rfl
  | cons v rest ih => exact (ih _).trans (header_absorb policy m v)

theorem distinct_foldl_absorb {m : HostModel} (distinct : m.bindings.Distinct)
    (policy : DuplicatePolicy) (vs : List ValidSite) :
    (vs.foldl (absorb policy) m).bindings.Distinct := by
  induction vs generalizing m with
  | nil => exact distinct
  | cons v rest ih => exact ih (distinct_absorb distinct policy v)

/-! ### Where a binding comes from -/

/-- The site that the binding of a slot comes from: the last one of the slot, or the first one where
later ones are denied. -/
def origin? (policy : DuplicatePolicy) (slot : Int32) (vs : List ValidSite) : Option ValidSite :=
  match policy with
  | .warn => vs.reverse.find? (·.slot = slot)
  | .deny => vs.find? (·.slot = slot)

theorem mem_of_origin? {policy : DuplicatePolicy} {slot : Int32} {vs : List ValidSite} {v : ValidSite}
    (counts : origin? policy slot vs = some v) : v ∈ vs ∧ v.slot = slot := by
  unfold origin? at counts
  split at counts
  · exact ⟨List.mem_reverse.mp (List.mem_of_find?_eq_some counts), by simpa using List.find?_some counts⟩
  · exact ⟨List.mem_of_find?_eq_some counts, by simpa using List.find?_some counts⟩

theorem get?_absorb_of_ne (policy : DuplicatePolicy) (m : HostModel) {v : ValidSite} {slot : Int32}
    (other : v.slot ≠ slot) : (m.absorb policy v).bindings.get? slot = m.bindings.get? slot := by
  unfold absorb
  split
  · rfl
  · exact InsertionMap.get?_insert_of_ne _ (Ne.symm other) _

theorem get?_absorb_warn (m : HostModel) (v : ValidSite) :
    (m.absorb .warn v).bindings.get? v.slot = some v.field := by
  rw [absorb_warn]
  exact InsertionMap.get?_insert_self _ _ _

theorem get?_absorb_deny (m : HostModel) (v : ValidSite) :
    (m.absorb .deny v).bindings.get? v.slot = (m.bindings.get? v.slot).or (some v.field) := by
  cases bound : m.bindings.get? v.slot with
  | none =>
    rw [absorb_of_none bound]
    exact InsertionMap.get?_insert_self _ _ _
  | some f => rw [absorb_deny_of_some bound, bound, Option.some_or]

theorem get?_foldl_absorb_warn (m : HostModel) (vs : List ValidSite) (slot : Int32) :
    (vs.foldl (absorb .warn) m).bindings.get? slot =
      ((origin? .warn slot vs).map (·.field)).or (m.bindings.get? slot) := by
  induction vs generalizing m with
  | nil => rfl
  | cons v rest ih =>
    simp only [origin?] at ih
    simp only [List.foldl_cons, ih, origin?, List.reverse_cons, List.find?_append]
    by_cases own : v.slot = slot
    · subst own
      -- A later site of the slot wins over this one.
      rw [get?_absorb_warn]
      cases rest.reverse.find? (·.slot = v.slot) <;> simp
    · rw [get?_absorb_of_ne .warn m own]
      simp [own]

theorem get?_foldl_absorb_deny (m : HostModel) (vs : List ValidSite) (slot : Int32) :
    (vs.foldl (absorb .deny) m).bindings.get? slot =
      (m.bindings.get? slot).or ((origin? .deny slot vs).map (·.field)) := by
  induction vs generalizing m with
  | nil => simp [origin?]
  | cons v rest ih =>
    rw [List.foldl_cons, ih]
    by_cases own : v.slot = slot
    · subst own
      -- What was bound before wins over this site.
      rw [get?_absorb_deny]
      cases m.bindings.get? v.slot <;> simp [origin?]
    · rw [get?_absorb_of_ne .deny m own]
      simp [origin?, own]

theorem get?_foldl_absorb (policy : DuplicatePolicy) (h : Host) (vs : List ValidSite) (slot : Int32) :
    (vs.foldl (absorb policy) (ofHost h)).bindings.get? slot = (origin? policy slot vs).map (·.field) := by
  have empty : (ofHost h).bindings.get? slot = none := rfl
  cases policy with
  | warn => rw [get?_foldl_absorb_warn, empty, Option.or_none]
  | deny => rw [get?_foldl_absorb_deny, empty, Option.none_or]

theorem foldl_extend_none {policy : DuplicatePolicy} {vs : List ValidSite} {m : HostModel}
    (h : vs.foldl (extend policy) none = some m) :
    ∃ v rest, vs = v :: rest ∧ m.header = ofHost v.host ∧ m.bindings.Distinct := by
  cases vs with
  | nil => simp at h
  | cons v rest =>
    have folded : (v :: rest).foldl (absorb policy) (ofHost v.host) = m :=
      Option.some.inj ((foldl_extend_some policy _ rest).symm.trans h)
    refine ⟨v, rest, rfl, ?_, ?_⟩
    · rw [← folded, header_foldl_absorb]
      rfl
    · rw [← folded]
      exact distinct_foldl_absorb InsertionMap.distinct_empty policy _

end HostModel

def sitesNamed (q : String) (vs : List ValidSite) : List ValidSite :=
  vs.filter fun v => v.host.qualifiedName = q

namespace Grouping

/-- One site changes the model of its host and no other. -/
theorem models_add (policy : DuplicatePolicy) (g : Grouping) (v : ValidSite) :
    (add policy g v).models =
      g.models.insert v.host.qualifiedName ((ModelSet.modelOf g.models v.host).absorb policy v) := by
  unfold add
  split
  · rename_i fresh
    rw [HostModel.absorb_of_none fresh]
    rfl
  · rename_i before bound
    cases policy with
    | warn => rw [HostModel.absorb_warn]; rfl
    | deny => rw [HostModel.absorb_deny_of_some bound]; rfl

theorem diagnostics_add (policy : DuplicatePolicy) (g : Grouping) (v : ValidSite) :
    (add policy g v).diagnostics =
      g.diagnostics ++ ((ModelSet.modelOf g.models v.host).bindings.get? v.slot).toList.map
        (duplicate policy v) := by
  unfold add
  split
  · rename_i fresh
    simp [fresh]
  · rename_i before bound
    simp [bound]

theorem get?_add_self (policy : DuplicatePolicy) (g : Grouping) (v : ValidSite) :
    (add policy g v).models.get? v.host.qualifiedName =
      HostModel.extend policy (g.models.get? v.host.qualifiedName) v := by
  rw [models_add, SortedMap.get?_insert_self]
  rfl

theorem get?_add_of_ne (policy : DuplicatePolicy) (g : Grouping) {v : ValidSite} {q : String}
    (other : q ≠ v.host.qualifiedName) : (add policy g v).models.get? q = g.models.get? q := by
  rw [models_add, SortedMap.get?_insert_of_ne _ other]

/-! ### All sites -/

theorem get?_foldl_add (policy : DuplicatePolicy) (vs : List ValidSite) (g : Grouping) (q : String) :
    (vs.foldl (add policy) g).models.get? q =
      (sitesNamed q vs).foldl (HostModel.extend policy) (g.models.get? q) := by
  induction vs generalizing g with
  | nil => rfl
  | cons v rest ih =>
    rw [List.foldl_cons, ih]
    by_cases own : v.host.qualifiedName = q
    · subst own
      rw [get?_add_self]
      simp [sitesNamed]
    · rw [get?_add_of_ne policy g (Ne.symm own)]
      simp [sitesNamed, own]

/-- The model of a host depends on the sites of that host alone. -/
theorem get?_ofSites (policy : DuplicatePolicy) (vs : List ValidSite) (q : String) :
    (ofSites policy vs).models.get? q = (sitesNamed q vs).foldl (HostModel.extend policy) none :=
  get?_foldl_add policy vs {} q

theorem sorted_foldl_add (policy : DuplicatePolicy) (vs : List ValidSite) {g : Grouping}
    (sorted : g.models.Sorted) : (vs.foldl (add policy) g).models.Sorted := by
  induction vs generalizing g with
  | nil => exact sorted
  | cons v rest ih =>
    apply ih
    rw [models_add]
    exact SortedMap.sorted_insert sorted _ _

theorem sorted_ofSites (policy : DuplicatePolicy) (vs : List ValidSite) :
    (ofSites policy vs).models.Sorted :=
  sorted_foldl_add policy vs SortedMap.sorted_empty

/-- A model has the header of the first site of its name, and that name is its own. -/
theorem header_of_get? {policy : DuplicatePolicy} {vs : List ValidSite} {q : String} {m : HostModel}
    (found : (ofSites policy vs).models.get? q = some m) :
    ∃ v rest, sitesNamed q vs = v :: rest ∧ m.header = .ofHost v.host ∧ m.qualifiedName = q ∧
      m.bindings.Distinct := by
  rw [get?_ofSites] at found
  obtain ⟨v, rest, named, header, distinct⟩ := HostModel.foldl_extend_none found
  have member : v ∈ sitesNamed q vs := by simp [named]
  have own : v.host.qualifiedName = q := by simpa using (List.mem_filter.mp member).2
  refine ⟨v, rest, named, header, ?_, distinct⟩
  rw [← HostModel.qualifiedName_header, header, HostModel.qualifiedName_ofHost, own]

theorem get?_bindings {policy : DuplicatePolicy} {vs : List ValidSite} {q : String} {m : HostModel}
    (found : (ofSites policy vs).models.get? q = some m) (slot : Int32) :
    m.bindings.get? slot = (HostModel.origin? policy slot (sitesNamed q vs)).map (·.field) := by
  obtain ⟨v, rest, named, _⟩ := header_of_get? found
  rw [get?_ofSites, named] at found
  have folded : (v :: rest).foldl (HostModel.absorb policy) (.ofHost v.host) = m :=
    Option.some.inj ((HostModel.foldl_extend_some policy _ rest).symm.trans found)
  rw [named, ← folded, HostModel.get?_foldl_absorb]

theorem exists_get?_of_mem (policy : DuplicatePolicy) {vs : List ValidSite} {v : ValidSite}
    (member : v ∈ vs) : ∃ m, (ofSites policy vs).models.get? v.host.qualifiedName = some m := by
  have named : v ∈ sitesNamed v.host.qualifiedName vs := List.mem_filter.mpr ⟨member, by simp⟩
  rw [get?_ofSites]
  cases own : sitesNamed v.host.qualifiedName vs with
  | nil =>
    rw [own] at named
    cases named
  | cons first rest => exact ⟨_, HostModel.foldl_extend_some policy _ rest⟩

theorem mem_values_of_get? {policy : DuplicatePolicy} {vs : List ValidSite} {q : String} {m : HostModel}
    (found : (ofSites policy vs).models.get? q = some m) : m ∈ (ofSites policy vs).models.values :=
  (SortedMap.mem_values_iff (sorted_ofSites policy vs)).mpr ⟨q, found⟩

theorem get?_qualifiedName {policy : DuplicatePolicy} {vs : List ValidSite} {m : HostModel}
    (member : m ∈ (ofSites policy vs).models.values) :
    (ofSites policy vs).models.get? m.qualifiedName = some m := by
  obtain ⟨q, found⟩ := (SortedMap.mem_values_iff (sorted_ofSites policy vs)).mp member
  obtain ⟨_, _, _, _, rfl, _⟩ := header_of_get? found
  exact found

theorem exists_host_of_mem {policy : DuplicatePolicy} {vs : List ValidSite} {m : HostModel}
    (member : m ∈ (ofSites policy vs).models.values) :
    ∃ v ∈ vs, v.host.qualifiedName = m.qualifiedName ∧ m.header = .ofHost v.host := by
  obtain ⟨v, rest, named, header, _, _⟩ := header_of_get? (get?_qualifiedName member)
  have among : v ∈ sitesNamed m.qualifiedName vs := by simp [named]
  obtain ⟨there, own⟩ := List.mem_filter.mp among
  exact ⟨v, there, by simpa using own, header⟩

theorem pairwise_values (policy : DuplicatePolicy) (vs : List ValidSite) :
    (ofSites policy vs).models.values.Pairwise fun m n => m.qualifiedName < n.qualifiedName := by
  have sorted := sorted_ofSites policy vs
  have named : ∀ e ∈ (ofSites policy vs).models.entries, e.2.qualifiedName = e.1 := by
    intro e member
    obtain ⟨_, _, _, _, name, _⟩ := header_of_get? ((SortedMap.mem_entries_iff sorted).mp member)
    exact name
  refine List.pairwise_map.mpr (sorted.imp_of_mem ?_)
  intro e f memberE memberF below
  rwa [named e memberE, named f memberF]

end Grouping

end SlotBinding
