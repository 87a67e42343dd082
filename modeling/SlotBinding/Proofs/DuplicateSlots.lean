import Mathlib.Data.List.Forall2
import Mathlib.Data.List.Induction
import SlotBinding.Proofs.Grouping

/-!
# Grouping in one description

`bindingsOf` and `repeats` say, without any state, what the sites of a host come to: its slots in the order
of their first sites with the field of the last or of the first site, and one report for every later site
of a slot. `ofSites_follows_description`: this is what grouping makes of any list of sites.
-/

namespace SlotBinding.Grouping

open HostModel (origin? absorb extend)

/-- The slots of some sites, in the order of their first sites. -/
def slotsOf (own : List ValidSite) : List Int32 := (own.map (·.slot)).eraseDups

/-- What the sites of one host bind: each slot once, to the field of the site that counts. -/
def bindingsOf (policy : DuplicatePolicy) (own : List ValidSite) : List (Int32 × BoundField) :=
  (slotsOf own).filterMap fun slot => (origin? policy slot own).map fun v => (slot, v.field)

/-- The field that a site finds in its slot, if other sites come before it. -/
def found? (policy : DuplicatePolicy) (before : List ValidSite) (v : ValidSite) : Option BoundField :=
  (origin? policy v.slot (sitesNamed v.host.qualifiedName before)).map (·.field)

/-- The sites whose slot their host has from sites before them, each with the field found there. -/
def repeats (policy : DuplicatePolicy) (vs : List ValidSite) : List (ValidSite × BoundField) :=
  vs.zipIdx.filterMap fun (v, i) => (found? policy (vs.take i) v).map (v, ·)

/-- The diagnostic stands at the later site and names the host, the slot and both fields. -/
structure ReportsRepeat (policy : DuplicatePolicy) (v : ValidSite) (before : BoundField)
    (d : Diagnostic) : Prop where
  kind : d.kind = .duplicateSlot
  severity : d.severity = match policy with
    | .warn => .warning
    | .deny => .error
  location : d.location = some v.location
  names : ∃ more, d.message =
    "slot " ++ toString v.slot.toInt ++ " is declared twice on `" ++ v.host.qualifiedName
      ++ "` (fields `" ++ before.name ++ "` and `" ++ v.field.name ++ "`)" ++ more

theorem reportsRepeat_duplicate (policy : DuplicatePolicy) (v : ValidSite) (before : BoundField) :
    ReportsRepeat policy v before (duplicate policy v before) := by
  cases policy with
  | warn => exact ⟨rfl, rfl, rfl, _, rfl⟩
  | deny => exact ⟨rfl, rfl, rfl, "", String.append_empty.symm⟩

theorem mem_slotsOf {slot : Int32} {own : List ValidSite} :
    slot ∈ slotsOf own ↔ slot ∈ own.map (·.slot) :=
  List.mem_eraseDups

theorem slotsOf_concat (own : List ValidSite) (v : ValidSite) :
    slotsOf (own ++ [v]) = if v.slot ∈ slotsOf own then slotsOf own else slotsOf own ++ [v.slot] := by
  have split : slotsOf (own ++ [v]) = slotsOf own ++ ([v.slot].removeAll (own.map (·.slot))).eraseDups := by
    rw [slotsOf, List.map_append, List.eraseDups_append]
    rfl
  rw [split]
  by_cases seen : v.slot ∈ slotsOf own
  · have gone : [v.slot].removeAll (own.map (·.slot)) = [] := by
      simpa [List.removeAll] using List.mem_map.mp (mem_slotsOf.mp seen)
    rw [if_pos seen, gone, List.eraseDups_nil, List.append_nil]
  · have kept : [v.slot].removeAll (own.map (·.slot)) = [v.slot] := by
      rw [mem_slotsOf, List.mem_map] at seen
      simpa [List.removeAll] using seen
    rw [if_neg seen, kept]
    rfl

theorem sitesNamed_concat (q : String) (vs : List ValidSite) (v : ValidSite) :
    sitesNamed q (vs ++ [v]) =
      if v.host.qualifiedName = q then sitesNamed q vs ++ [v] else sitesNamed q vs := by
  by_cases own : v.host.qualifiedName = q <;> simp [sitesNamed, own]

theorem repeats_concat (policy : DuplicatePolicy) (vs : List ValidSite) (v : ValidSite) :
    repeats policy (vs ++ [v]) = repeats policy vs ++ ((found? policy vs v).map (v, ·)).toList := by
  unfold repeats
  rw [List.zipIdx_append, List.filterMap_append]
  congr 1
  · refine List.filterMap_congr fun e member => ?_
    have inside : e.2 < vs.length + 0 := List.snd_lt_of_mem_zipIdx member
    dsimp only
    rw [List.take_append_of_le_length (by omega)]
  · have front : (vs ++ [v]).take vs.length = vs := List.take_left' rfl
    simp only [List.zipIdx_singleton, Nat.zero_add, List.filterMap_cons, List.filterMap_nil, front]
    cases found? policy vs v <;> rfl

theorem keys_absorb (policy : DuplicatePolicy) (m : HostModel) (v : ValidSite) :
    (m.absorb policy v).bindings.keys =
      if v.slot ∈ m.bindings.keys then m.bindings.keys else m.bindings.keys ++ [v.slot] := by
  unfold absorb
  split
  · rename_i bound
    have there : v.slot ∈ m.bindings.keys := by
      refine Decidable.not_not.mp fun absent => ?_
      rw [InsertionMap.get?_eq_none_iff.mpr absent] at bound
      cases bound
    rw [if_pos there]
  · exact InsertionMap.keys_insert _ _ _

theorem keys_foldl_absorb (policy : DuplicatePolicy) (h : Host) (own : List ValidSite) :
    (own.foldl (absorb policy) (.ofHost h)).bindings.keys = slotsOf own := by
  induction own using List.reverseRecOn with
  | nil => rfl
  | append_singleton own v ih => rw [List.foldl_concat, keys_absorb, ih, slotsOf_concat]

theorem foldl_absorb_eq (policy : DuplicatePolicy) (h : Host) (own : List ValidSite) :
    own.foldl (absorb policy) (.ofHost h) =
      { HostModel.ofHost h with bindings := ⟨bindingsOf policy own⟩ } := by
  have header := HostModel.header_foldl_absorb policy (.ofHost h) own
  have distinct := HostModel.distinct_foldl_absorb (m := .ofHost h) InsertionMap.distinct_empty policy own
  have entries : (own.foldl (absorb policy) (.ofHost h)).bindings.toList = bindingsOf policy own := by
    rw [InsertionMap.toList_eq distinct, keys_foldl_absorb, bindingsOf]
    refine List.filterMap_congr fun slot _ => ?_
    rw [HostModel.get?_foldl_absorb, Option.map_map]
    rfl
  generalize own.foldl (absorb policy) (.ofHost h) = m at header entries
  rw [← entries]
  obtain ⟨crateName, modulePath, name, location, cfg, bindings⟩ := m
  injection header with crates modules names locations cfgs
  subst crates modules names locations cfgs
  rfl

theorem get?_ofSites_eq (policy : DuplicatePolicy) (vs : List ValidSite) (q : String) :
    (ofSites policy vs).models.get? q = (sitesNamed q vs).head?.map fun v =>
      { HostModel.ofHost v.host with bindings := ⟨bindingsOf policy (sitesNamed q vs)⟩ } := by
  rw [get?_ofSites]
  cases sitesNamed q vs with
  | nil => rfl
  | cons v rest =>
    have folded : (v :: rest).foldl (extend policy) none =
        some ((v :: rest).foldl (absorb policy) (.ofHost v.host)) :=
      HostModel.foldl_extend_some policy _ rest
    rw [folded, foldl_absorb_eq, List.head?_cons, Option.map_some]

theorem isSome_origin? (policy : DuplicatePolicy) {slot : Int32} {own : List ValidSite} :
    (origin? policy slot own).isSome = true ↔ slot ∈ own.map (·.slot) := by
  cases policy <;> simp [origin?, List.find?_isSome, List.mem_map]

theorem map_bindingsOf (policy : DuplicatePolicy) (own : List ValidSite) :
    (bindingsOf policy own).map (·.1) = slotsOf own := by
  have each : ∀ slot ∈ slotsOf own, ((origin? policy slot own).map fun v => (slot, v.field)).map (·.1) =
      some slot := by
    intro slot member
    obtain ⟨v, counts⟩ := Option.isSome_iff_exists.mp ((isSome_origin? policy).mpr (mem_slotsOf.mp member))
    rw [counts]
    rfl
  rw [bindingsOf, List.map_filterMap]
  exact (List.filterMap_congr each).trans List.filterMap_some

/-! ### The reports -/

theorem get?_modelOf (policy : DuplicatePolicy) (vs : List ValidSite) (h : Host) (slot : Int32) :
    (ModelSet.modelOf (ofSites policy vs).models h).bindings.get? slot =
      (origin? policy slot (sitesNamed h.qualifiedName vs)).map (·.field) := by
  unfold ModelSet.modelOf
  cases found : (ofSites policy vs).models.get? h.qualifiedName with
  | some m => exact get?_bindings found slot
  | none =>
    rw [get?_ofSites_eq, Option.map_eq_none_iff, List.head?_eq_none_iff] at found
    rw [found]
    cases policy <;> rfl

theorem diagnostics_ofSites (policy : DuplicatePolicy) (vs : List ValidSite) :
    (ofSites policy vs).diagnostics = (repeats policy vs).map fun r => duplicate policy r.1 r.2 := by
  induction vs using List.reverseRecOn with
  | nil => rfl
  | append_singleton vs v ih =>
    have grouped : ofSites policy (vs ++ [v]) = add policy (ofSites policy vs) v := List.foldl_concat ..
    rw [grouped, diagnostics_add, get?_modelOf, ih, repeats_concat, List.map_append]
    congr 1
    unfold found?
    cases origin? policy v.slot (sitesNamed v.host.qualifiedName vs) <;> rfl

theorem sitesNamed_sitesNamed (q : String) (vs : List ValidSite) :
    sitesNamed q (sitesNamed q vs) = sitesNamed q vs := by
  simp [sitesNamed, List.filter_filter]

theorem found?_sitesNamed (policy : DuplicatePolicy) (vs : List ValidSite) (v : ValidSite) :
    found? policy (sitesNamed v.host.qualifiedName vs) v = found? policy vs v := by
  rw [found?, found?, sitesNamed_sitesNamed]

theorem filter_repeats (policy : DuplicatePolicy) (q : String) (vs : List ValidSite) :
    (repeats policy vs).filter (fun r => r.1.host.qualifiedName = q) =
      repeats policy (sitesNamed q vs) := by
  induction vs using List.reverseRecOn with
  | nil => rfl
  | append_singleton vs v ih =>
    rw [repeats_concat, List.filter_append, ih, sitesNamed_concat]
    by_cases own : v.host.qualifiedName = q
    · subst own
      rw [if_pos rfl, repeats_concat, found?_sitesNamed]
      cases found? policy vs v <;> simp
    · rw [if_neg own]
      cases found? policy vs v <;> simp [own]

theorem length_repeats (policy : DuplicatePolicy) (q : String) (vs : List ValidSite) :
    (repeats policy (sitesNamed q vs)).length + (slotsOf (sitesNamed q vs)).length =
      (sitesNamed q vs).length := by
  induction vs using List.reverseRecOn with
  | nil => rfl
  | append_singleton vs v ih =>
    rw [sitesNamed_concat]
    by_cases own : v.host.qualifiedName = q
    · subst own
      rw [if_pos rfl, repeats_concat, slotsOf_concat, found?, sitesNamed_sitesNamed]
      -- The site is reported exactly if its slot is no new one.
      cases counts : origin? policy v.slot (sitesNamed v.host.qualifiedName vs) with
      | none =>
        have fresh : v.slot ∉ slotsOf (sitesNamed v.host.qualifiedName vs) := by
          rw [mem_slotsOf, ← isSome_origin? policy, counts]
          simp
        simp only [if_neg fresh, Option.map_none, Option.toList_none, List.append_nil,
          List.length_append, List.length_singleton]
        omega
      | some w =>
        have seen : v.slot ∈ slotsOf (sitesNamed v.host.qualifiedName vs) := by
          rw [mem_slotsOf, ← isSome_origin? policy, counts]
          rfl
        simp only [if_pos seen, Option.map_some, Option.toList_some, List.length_append,
          List.length_singleton]
        omega
    · rw [if_neg own]
      exact ih

def outline (m : HostModel) : HostModel × List Int32 := (m.header, m.bindings.keys)

theorem outline_agrees (vs : List ValidSite) :
    (ofSites .warn vs).models.mapValues outline = (ofSites .deny vs).models.mapValues outline := by
  refine SortedMap.eq_of_get? (SortedMap.sorted_mapValues _ (sorted_ofSites _ _))
    (SortedMap.sorted_mapValues _ (sorted_ofSites _ _)) fun q => ?_
  rw [SortedMap.get?_mapValues, SortedMap.get?_mapValues, get?_ofSites_eq, get?_ofSites_eq]
  cases (sitesNamed q vs).head? with
  | none => rfl
  | some v => simp [outline, InsertionMap.keys, map_bindingsOf, HostModel.header]

/-! ### The groups -/

theorem forall₂_diagnostics (policy : DuplicatePolicy) (vs : List ValidSite) :
    List.Forall₂ (fun r d => ReportsRepeat policy r.1 r.2 d) (repeats policy vs)
      (ofSites policy vs).diagnostics := by
  rw [diagnostics_ofSites, List.forall₂_map_right_iff, List.forall₂_same]
  exact fun r _ => reportsRepeat_duplicate policy r.1 r.2

theorem exists_get?_iff (policy : DuplicatePolicy) (vs : List ValidSite) (q : String) :
    (∃ m, (ofSites policy vs).models.get? q = some m) ↔ ∃ v ∈ vs, v.host.qualifiedName = q := by
  constructor
  · rintro ⟨m, found⟩
    obtain ⟨v, rest, named, _⟩ := header_of_get? found
    have member : v ∈ sitesNamed q vs := by simp [named]
    obtain ⟨among, own⟩ := List.mem_filter.mp member
    exact ⟨v, among, of_decide_eq_true own⟩
  · rintro ⟨v, member, rfl⟩
    exact exists_get?_of_mem policy member

theorem bindings_ne_empty {policy : DuplicatePolicy} {vs : List ValidSite} {m : HostModel}
    (member : m ∈ (ofSites policy vs).models.values) : m.bindings.isEmpty = false := by
  have found := get?_qualifiedName member
  obtain ⟨v, rest, named, _⟩ := header_of_get? found
  have bound := get?_bindings found v.slot
  have counts : (origin? policy v.slot (sitesNamed m.qualifiedName vs)).isSome = true := by
    rw [isSome_origin?, named]
    exact List.mem_cons_self
  cases empty : m.bindings.isEmpty with
  | false => rfl
  | true =>
    -- A map without entries holds no slot, but that of the first site is bound.
    have none : m.bindings.get? v.slot = none := by
      rw [InsertionMap.get?, List.isEmpty_iff.mp empty]
      rfl
    rw [none, eq_comm, Option.map_eq_none_iff] at bound
    rw [bound] at counts
    cases counts

/-- Grouping is what the description says, under either policy: the model of a host has its slots in the
order of their first sites, each with the field of the last or of the first one; every later site of a
slot gets one report, in the order of the sites, with the field that its model had in the slot just before
it; there is a model exactly for every host with a site, and none of them is empty. The policies agree in
everything but the fields and the reports. -/
theorem ofSites_follows_description (policy : DuplicatePolicy) (vs : List ValidSite) :
    (∀ q, (ofSites policy vs).models.get? q = (sitesNamed q vs).head?.map fun v =>
      { HostModel.ofHost v.host with bindings := ⟨bindingsOf policy (sitesNamed q vs)⟩ }) ∧
    (∀ q, (bindingsOf policy (sitesNamed q vs)).map (·.1) = slotsOf (sitesNamed q vs)) ∧
    List.Forall₂ (fun r d => ReportsRepeat policy r.1 r.2 d) (repeats policy vs)
      (ofSites policy vs).diagnostics ∧
    (∀ q, (repeats policy vs).filter (fun r => r.1.host.qualifiedName = q) =
        repeats policy (sitesNamed q vs) ∧
      (repeats policy (sitesNamed q vs)).length + (slotsOf (sitesNamed q vs)).length =
        (sitesNamed q vs).length) ∧
    (∀ before v, found? policy before v =
      (ModelSet.modelOf (ofSites policy before).models v.host).bindings.get? v.slot) ∧
    (∀ q, (∃ m, (ofSites policy vs).models.get? q = some m) ↔ ∃ v ∈ vs, v.host.qualifiedName = q) ∧
    (∀ m ∈ (ofSites policy vs).models.values, m.bindings.isEmpty = false) ∧
    (ofSites .warn vs).models.mapValues outline = (ofSites .deny vs).models.mapValues outline :=
  ⟨get?_ofSites_eq policy vs, fun _ => map_bindingsOf policy _, forall₂_diagnostics policy vs,
    fun q => ⟨filter_repeats policy q vs, length_repeats policy q vs⟩,
    fun before v => (get?_modelOf policy before v.host v.slot).symm,
    exists_get?_iff policy vs, fun _ member => bindings_ne_empty member, outline_agrees vs⟩

/-- Of two hosts, one declares a slot three times and another slot between. -/
theorem ofSites_follows_description_thrice :
    let home := Host.visible "app" [] "Home"
    let menu := Host.visible "app" [] "Menu"
    let vs := [home.site 1 "title", menu.site 1 "title", home.site 2 "hint", home.site 1 "heading",
      home.site 1 "caption"].filterMap Site.valid?
    (repeats .warn vs).map (fun r => (r.1.field.name, r.2.name)) =
        [("heading", "title"), ("caption", "heading")] ∧
      (bindingsOf .warn (sitesNamed "app::Home" vs)).map (fun b => (b.1, b.2.name)) =
        [(1, "caption"), (2, "hint")] ∧
      (bindingsOf .deny (sitesNamed "app::Home" vs)).map (fun b => (b.1, b.2.name)) =
        [(1, "title"), (2, "hint")] ∧
      (ofSites .warn vs).diagnostics.length = 2 ∧
      ∃ m ∈ (ofSites .warn vs).models.values, m.bindings.keys = [1, 2] ∧ m.bindings.isEmpty = false := by
  intro home menu vs
  obtain ⟨model, slots, reports, _, _, _, filled, _⟩ := ofSites_follows_description .warn vs
  have two : (repeats .warn vs).length = 2 := by decide +kernel
  have keys : slotsOf (sitesNamed "app::Home" vs) = [1, 2] := by decide +kernel
  obtain ⟨v, first⟩ : ∃ v, (sitesNamed "app::Home" vs).head? = some v :=
    Option.isSome_iff_exists.mp (by decide +kernel)
  have found := model "app::Home"
  rw [first, Option.map_some] at found
  have member := mem_values_of_get? found
  refine ⟨by decide +kernel, by decide +kernel, by decide +kernel, ?_, _, member, ?_, filled _ member⟩
  · rw [← reports.length_eq, two]
  · exact (slots "app::Home").trans keys

end SlotBinding.Grouping
