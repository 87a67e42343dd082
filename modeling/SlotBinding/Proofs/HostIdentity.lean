import SlotBinding.Proofs.BinderTable
import SlotBinding.Proofs.Grouping

/-!
# Hosts are grouped by identity

A set of models is asked for the models of hosts, and fields are bound in them. `run_groups_by_identity`:
whatever the calls, two hosts have one model exactly if they agree on the crate, the modules and the name.
-/

namespace SlotBinding

def behindColons (ss : List String) : List Char := ss.flatMap fun s => ':' :: ':' :: s.toList

def ColonFree (ss : List String) : Prop := ∀ s ∈ ss, ':' ∉ s.toList

theorem takeWhile_behindColons {front : List Char} (free : ':' ∉ front) (ss : List String) :
    (front ++ behindColons ss).takeWhile (· ≠ ':') = front := by
  have all : ∀ c ∈ front, decide (c ≠ ':') = true := fun c member =>
    decide_eq_true fun same => free (same ▸ member)
  rw [List.takeWhile_append_of_pos all]
  cases ss <;> simp [behindColons]

theorem front_behindColons {a b : List Char} {as bs : List String} (freeA : ':' ∉ a) (freeB : ':' ∉ b)
    (same : a ++ behindColons as = b ++ behindColons bs) : a = b ∧ behindColons as = behindColons bs := by
  have fronts := congrArg (List.takeWhile (· ≠ ':')) same
  rw [takeWhile_behindColons freeA, takeWhile_behindColons freeB] at fronts
  subst fronts
  exact ⟨rfl, List.append_cancel_left same⟩

theorem behindColons_injective {as bs : List String} (freeA : ColonFree as) (freeB : ColonFree bs)
    (same : behindColons as = behindColons bs) : as = bs := by
  induction as generalizing bs with
  | nil =>
    cases bs with
    | nil => rfl
    | cons b bs => cases same
  | cons a as ih =>
    cases bs with
    | nil => cases same
    | cons b bs =>
      obtain ⟨ownA, othersA⟩ := List.forall_mem_cons.mp freeA
      obtain ⟨ownB, othersB⟩ := List.forall_mem_cons.mp freeB
      have behind : a.toList ++ behindColons as = b.toList ++ behindColons bs :=
        (List.cons.inj (List.cons.inj same).2).2
      obtain ⟨first, others⟩ := front_behindColons ownA ownB behind
      rw [String.toList_inj.mp first, ih othersA othersB others]

/-- What tells a struct from all others. -/
@[ext]
structure HostIdentity where
  crateName : String
  modulePath : List String
  name : String
  deriving DecidableEq

namespace HostIdentity

/-- No name on the way to the struct has a colon. -/
def Plain (i : HostIdentity) : Prop := ColonFree (i.crateName :: i.modulePath ++ [i.name])

instance (i : HostIdentity) : Decidable i.Plain := inferInstanceAs (Decidable (∀ s ∈ _, _))

def qualifiedName (i : HostIdentity) : List Char :=
  i.crateName.toList ++ behindColons (i.modulePath ++ [i.name])

theorem eq_of_qualifiedName {i j : HostIdentity} (plainI : i.Plain) (plainJ : j.Plain)
    (same : i.qualifiedName = j.qualifiedName) : i = j := by
  obtain ⟨crateI, othersI⟩ := List.forall_mem_cons.mp plainI
  obtain ⟨crateJ, othersJ⟩ := List.forall_mem_cons.mp plainJ
  obtain ⟨crate, behind⟩ := front_behindColons crateI crateJ same
  have names := behindColons_injective othersI othersJ behind
  obtain ⟨path, name⟩ := List.append_inj' names rfl
  exact HostIdentity.ext (String.toList_inj.mp crate) path (List.singleton_inj.mp name)

end HostIdentity

def HostModel.identity (m : HostModel) : HostIdentity := ⟨m.crateName, m.modulePath, m.name⟩

theorem HostModel.toList_qualifiedName (m : HostModel) :
    m.qualifiedName.toList = m.identity.qualifiedName := by
  rw [qualifiedName, String.toList_append]
  simp [HostIdentity.qualifiedName, identity, behindColons, String.toList_join, List.flatMap_map]

namespace Host

def identity (h : Host) : HostIdentity := ⟨h.crateName, h.modulePath, h.name⟩

theorem toList_qualifiedName (h : Host) : h.qualifiedName.toList = h.identity.qualifiedName := by
  rw [← HostModel.qualifiedName_ofHost]
  exact HostModel.toList_qualifiedName (.ofHost h)

theorem qualifiedName_eq_iff {h k : Host} (plainH : h.identity.Plain) (plainK : k.identity.Plain) :
    h.qualifiedName = k.qualifiedName ↔ h.identity = k.identity := by
  rw [← String.toList_inj, toList_qualifiedName, toList_qualifiedName]
  exact ⟨HostIdentity.eq_of_qualifiedName plainH plainK, congrArg _⟩

end Host

/-! ### Calls -/

/-- A call on a set of models. -/
inductive ModelCall
  /-- Asks for the model of a host. -/
  | enter (host : Host)
  /-- Binds a field in the model of a host. -/
  | bind (host : Host) (slot : Int32) (field : BoundField)

namespace ModelCall

def host : ModelCall → Host
  | enter h => h
  | bind h _ _ => h

def binding? : ModelCall → Option (Int32 × BoundField)
  | enter _ => none
  | bind _ slot f => some (slot, f)

def apply (s : ModelSet) : ModelCall → ModelSet
  | enter h => s.enter h
  | bind h slot f => s.bind h slot f

def run (calls : List ModelCall) : ModelSet := calls.foldl apply {}

def named (q : String) (calls : List ModelCall) : List ModelCall :=
  calls.filter fun c => c.host.qualifiedName = q

def absorb (m : HostModel) : ModelCall → HostModel
  | enter _ => m
  | bind _ slot f => m.bind slot f

def extend (m : Option HostModel) (c : ModelCall) : Option HostModel :=
  some (absorb (m.getD (.ofHost c.host)) c)

def bindings (calls : List ModelCall) : BindingMap :=
  (calls.filterMap (·.binding?)).foldl (fun m b => m.insert b.1 b.2) {}

theorem apply_eq (s : ModelSet) (c : ModelCall) :
    c.apply s = s.insert c.host.qualifiedName (c.absorb (s.modelOf c.host)) := by
  cases c <;> rfl

theorem get?_apply_self (s : ModelSet) (c : ModelCall) :
    (c.apply s).get? c.host.qualifiedName = c.extend (s.get? c.host.qualifiedName) := by
  rw [apply_eq, SortedMap.get?_insert_self]
  rfl

theorem get?_apply_of_ne (s : ModelSet) {c : ModelCall} {q : String} (other : q ≠ c.host.qualifiedName) :
    (c.apply s).get? q = s.get? q := by
  rw [apply_eq, SortedMap.get?_insert_of_ne _ other]

theorem get?_foldl_apply (calls : List ModelCall) (s : ModelSet) (q : String) :
    (calls.foldl apply s).get? q = (named q calls).foldl extend (s.get? q) := by
  induction calls generalizing s with
  | nil => rfl
  | cons c rest ih =>
    rw [List.foldl_cons, ih]
    by_cases own : c.host.qualifiedName = q
    · subst own
      rw [get?_apply_self]
      simp [named]
    · rw [get?_apply_of_ne s (Ne.symm own)]
      simp [named, own]

theorem sorted_run (calls : List ModelCall) : (run calls).Sorted := by
  suffices kept : ∀ s : ModelSet, s.Sorted → (calls.foldl apply s).Sorted from
    kept {} SortedMap.sorted_empty
  induction calls with
  | nil => exact fun s sorted => sorted
  | cons c rest ih =>
    intro s sorted
    apply ih
    rw [apply_eq]
    exact SortedMap.sorted_insert sorted _ _

theorem foldl_absorb (m : HostModel) (calls : List ModelCall) :
    calls.foldl absorb m =
      { m with bindings := (calls.filterMap (·.binding?)).foldl (fun m b => m.insert b.1 b.2) m.bindings } := by
  induction calls generalizing m with
  | nil => rfl
  | cons c rest ih =>
    rw [List.foldl_cons, ih]
    cases c <;> rfl

theorem foldl_extend_some (m : HostModel) (calls : List ModelCall) :
    calls.foldl extend (some m) = some (calls.foldl absorb m) := by
  induction calls generalizing m with
  | nil => rfl
  | cons c rest ih => exact ih (c.absorb m)

/-- The model of a name is that of the first host of the name, with all that is bound in it. -/
theorem get?_run (calls : List ModelCall) (q : String) :
    (run calls).get? q =
      (named q calls).head?.map fun first =>
        { HostModel.ofHost first.host with bindings := bindings (named q calls) } := by
  rw [run, get?_foldl_apply]
  cases named q calls with
  | nil => rfl
  | cons first rest =>
    have begun : (first :: rest).foldl extend none = some ((first :: rest).foldl absorb (.ofHost first.host)) :=
      foldl_extend_some _ rest
    rw [SortedMap.get?_empty, begun, foldl_absorb]
    rfl

end ModelCall

namespace SortedMap

variable {α : Type u}

def place (m : SortedMap String α) (k : String) : Nat := m.entries.findIdx fun e => e.1 = k

theorem values_place (m : SortedMap String α) (k : String) : m.values[m.place k]? = m.get? k := by
  rw [values, List.getElem?_map, place, ← List.find?_eq_getElem?_findIdx, get?]

theorem put_of_mem {k : String} {es : List (String × α)} (sorted : es.Pairwise (fun e f => e.1 < f.1))
    (there : ∃ e ∈ es, e.1 = k) (a : α) :
    put k a es = es.modify (es.findIdx fun e => e.1 = k) fun _ => (k, a) := by
  induction es with
  | nil => obtain ⟨e, member, _⟩ := there; cases member
  | cons e rest ih =>
    obtain ⟨above, tail⟩ := List.pairwise_cons.mp sorted
    rw [put, List.findIdx_cons]
    by_cases own : e.1 = k
    · simp [own]
    · obtain ⟨f, member, key⟩ := there
      have later : f ∈ rest := by
        rcases List.mem_cons.mp member with rfl | later
        · exact absurd key own
        · exact later
      have below : ¬k < e.1 := fun above' =>
        String.lt_irrefl k (String.lt_trans above' (key ▸ above f later))
      simp [own, below, ih tail ⟨f, later, key⟩]

/-- A new value for a key that is there changes no other value and no place. -/
theorem values_insert {m : SortedMap String α} (sorted : m.Sorted) {k : String} {a : α}
    (found : m.get? k = some a) (f : α → α) :
    (m.insert k (f a)).values = m.values.modify (m.place k) f := by
  have there : ∃ e ∈ m.entries, e.1 = k := ⟨_, (mem_entries_iff sorted).mpr found, rfl⟩
  have held := m.values_place k
  rw [found] at held
  rw [values, insert, put_of_mem sorted there]
  apply List.ext_getElem?
  intro i
  rw [List.getElem?_map, List.getElem?_modify, List.getElem?_modify, ← place]
  by_cases own : m.place k = i
  · subst own
    rw [held]
    rw [values, List.getElem?_map] at held
    obtain ⟨e, stands, _⟩ := Option.map_eq_some_iff.mp held
    simp [stands]
  · simp [own, values]

theorem insert_of_get? {m : SortedMap String α} (sorted : m.Sorted) {k : String} {a : α}
    (found : m.get? k = some a) : m.insert k a = m := by
  apply eq_of_get? (sorted_insert sorted k a) sorted
  intro j
  by_cases own : j = k
  · rw [own, get?_insert_self, found]
  · exact get?_insert_of_ne m own a

end SortedMap

/-! ### Groups -/

namespace ModelCall

def identified (i : HostIdentity) (calls : List ModelCall) : List ModelCall :=
  calls.filter fun c => c.host.identity = i

/-- The model that the calls on one struct make, the first of which is given. -/
def modelFrom (first : ModelCall) (calls : List ModelCall) : HostModel :=
  { HostModel.ofHost first.host with bindings := bindings (identified first.host.identity calls) }

theorem qualifiedName_modelFrom (first : ModelCall) (calls : List ModelCall) :
    (modelFrom first calls).qualifiedName = first.host.qualifiedName :=
  HostModel.qualifiedName_ofHost first.host

/-- The models that some calls leave. A host's model stands at its place among the values. -/
structure GroupsByIdentity (calls : List ModelCall) (s : ModelSet) : Prop where
  /-- Two hosts share a model exactly if they agree on the crate, the modules and the name. -/
  shared : ∀ c ∈ calls, ∀ d ∈ calls,
    s.place c.host.qualifiedName = s.place d.host.qualifiedName ↔ c.host.identity = d.host.identity
  /-- The conditions and the location are those of the first host, whatever came behind. -/
  founded : ∀ before first rest, calls = before ++ first :: rest →
    (∀ d ∈ before, d.host.identity ≠ first.host.identity) →
    s.values[s.place first.host.qualifiedName]? = some (modelFrom first calls)
  /-- The model of a host has the host's name and is found under it. -/
  held : ∀ c ∈ calls, ∃ m, s.get? c.host.qualifiedName = some m ∧
    s.values[s.place c.host.qualifiedName]? = some m ∧
    m.identity = c.host.identity ∧ m.qualifiedName = c.host.qualifiedName
  /-- There is no model besides those of the hosts. -/
  inhabited : ∀ m ∈ s.values, ∃ c ∈ calls, c.host.identity = m.identity
  /-- Every model stands under its own name. -/
  keyed : ∀ e ∈ s.entries, e.1 = e.2.qualifiedName
  /-- The models are listed once each, in the order of the bytes of their names. -/
  ascending : s.values.Pairwise fun m n => Text.bytes m.qualifiedName < Text.bytes n.qualifiedName
  /-- Asking for a host again changes nothing. -/
  entered : ∀ c ∈ calls, s.enter c.host = s
  /-- A field is bound in the host's model and nowhere else. -/
  bound : ∀ c ∈ calls, ∀ slot f,
    (s.bind c.host slot f).values = s.values.modify (s.place c.host.qualifiedName) (·.bind slot f)

theorem named_eq_identified {calls : List ModelCall} (plain : ∀ c ∈ calls, c.host.identity.Plain) {c : ModelCall}
    (member : c ∈ calls) : named c.host.qualifiedName calls = identified c.host.identity calls := by
  apply List.filter_congr
  intro d among
  simp only [Host.qualifiedName_eq_iff (plain d among) (plain c member)]

/-- The model of a host is founded by the first call on its struct. -/
theorem get?_run_of_mem {calls : List ModelCall} (plain : ∀ c ∈ calls, c.host.identity.Plain) {c : ModelCall}
    (member : c ∈ calls) :
    ∃ first, (identified c.host.identity calls).head? = some first ∧
      first.host.identity = c.host.identity ∧
      (run calls).get? c.host.qualifiedName = some (modelFrom first calls) := by
  have among : c ∈ identified c.host.identity calls := List.mem_filter.mpr ⟨member, by simp⟩
  obtain ⟨first, head⟩ : ∃ first, (identified c.host.identity calls).head? = some first :=
    ⟨_, List.head?_eq_some_head (List.ne_nil_of_mem among)⟩
  have own : first.host.identity = c.host.identity := by
    simpa using (List.mem_filter.mp (List.mem_of_mem_head? head)).2
  refine ⟨first, head, own, ?_⟩
  rw [get?_run, named_eq_identified plain member, head, Option.map_some, modelFrom, own]

theorem head?_identified {calls before rest : List ModelCall} {first : ModelCall}
    (split : calls = before ++ first :: rest)
    (earlier : ∀ d ∈ before, d.host.identity ≠ first.host.identity) :
    (identified first.host.identity calls).head? = some first := by
  have others : before.filter (fun d => d.host.identity = first.host.identity) = [] :=
    List.filter_eq_nil_iff.mpr fun d member => by simpa using earlier d member
  rw [identified, split, List.filter_append, others]
  simp

theorem mem_of_mem_entries {calls : List ModelCall} {e : String × HostModel}
    (member : e ∈ (run calls).entries) :
    ∃ first ∈ calls, first.host.qualifiedName = e.1 ∧ e.2.identity = first.host.identity ∧
      e.2.qualifiedName = e.1 := by
  have found := (SortedMap.mem_entries_iff (sorted_run calls)).mp member
  rw [get?_run] at found
  obtain ⟨first, head, model⟩ := Option.map_eq_some_iff.mp found
  obtain ⟨among, own⟩ := List.mem_filter.mp (List.mem_of_mem_head? head)
  have name : first.host.qualifiedName = e.1 := by simpa using own
  refine ⟨first, among, name, ?_, ?_⟩
  · rw [← model]; rfl
  · rw [← model, ← name]
    exact HostModel.qualifiedName_ofHost first.host

/-- Whatever the calls, they leave one model for each struct. -/
theorem run_groups_by_identity {calls : List ModelCall} (plain : ∀ c ∈ calls, c.host.identity.Plain) :
    GroupsByIdentity calls (run calls) := by
  have sorted := sorted_run calls
  have held : ∀ c ∈ calls, ∃ m, (run calls).get? c.host.qualifiedName = some m ∧
      (run calls).values[(run calls).place c.host.qualifiedName]? = some m ∧
      m.identity = c.host.identity ∧ m.qualifiedName = c.host.qualifiedName := by
    intro c member
    obtain ⟨first, head, own, found⟩ := get?_run_of_mem plain member
    have among : first ∈ calls := (List.mem_filter.mp (List.mem_of_mem_head? head)).1
    refine ⟨modelFrom first calls, found, by rw [SortedMap.values_place, found], own, ?_⟩
    rw [qualifiedName_modelFrom]
    exact (Host.qualifiedName_eq_iff (plain first among) (plain c member)).mpr own
  constructor
  case shared =>
    intro c memberC d memberD
    rw [← Host.qualifiedName_eq_iff (plain c memberC) (plain d memberD)]
    constructor
    · intro same
      obtain ⟨m, _, atC, _, nameC⟩ := held c memberC
      obtain ⟨n, _, atD, _, nameD⟩ := held d memberD
      rw [same, atD] at atC
      rw [← nameC, ← nameD, Option.some.inj atC]
    · intro same
      rw [same]
  case founded =>
    intro before first rest split earlier
    have member : first ∈ calls := by simp [split]
    obtain ⟨founder, head, _, found⟩ := get?_run_of_mem plain member
    rw [head?_identified split earlier] at head
    rw [SortedMap.values_place, found, Option.some.inj head]
  case held => exact held
  case inhabited =>
    intro m member
    obtain ⟨e, stands, rfl⟩ := List.mem_map.mp member
    obtain ⟨first, among, _, own, _⟩ := mem_of_mem_entries stands
    exact ⟨first, among, own.symm⟩
  case keyed =>
    intro e member
    obtain ⟨_, _, _, _, name⟩ := mem_of_mem_entries member
    exact name.symm
  case ascending =>
    refine List.pairwise_map.mpr (sorted.imp_of_mem ?_)
    intro e f memberE memberF below
    obtain ⟨_, _, _, _, nameE⟩ := mem_of_mem_entries memberE
    obtain ⟨_, _, _, _, nameF⟩ := mem_of_mem_entries memberF
    exact Text.bytes_lt_bytes (by rwa [nameE, nameF])
  case entered =>
    intro c member
    obtain ⟨m, found, _⟩ := held c member
    rw [ModelSet.enter, ModelSet.modelOf, found]
    exact SortedMap.insert_of_get? sorted found
  case bound =>
    intro c member slot f
    obtain ⟨m, found, _⟩ := held c member
    rw [ModelSet.bind, ModelSet.modelOf, found]
    exact SortedMap.values_insert sorted found (·.bind slot f)

/-- A struct whose file and conditions change between the calls, with one of its name at the crate root and one
in a module that has its name. -/
theorem run_groups_by_identity_of_changing_host :
    let home : Host := .visible "app" ["ui"] "Home"
    let condition : Syntax.Attribute :=
      { start := .unknown, path := ⟨false, ["cfg"]⟩, argument := .none, inside := [.ofWord "cfg"] }
    let moved : Host := { home with location := .ofFile "src/b.rs", cfg := [condition] }
    let inner : Host := .visible "app" ["ui", "Home"] "Home"
    let bare : Host := .visible "app" [] "Home"
    let title : BoundField := ⟨.named "title", [.ofWord "Label"]⟩
    let calls : List ModelCall :=
      [.bind home 1 title, .enter moved, .bind inner 2 title, .bind moved 3 title, .enter bare]
    (∀ c ∈ calls, c.host.identity.Plain) ∧ GroupsByIdentity calls (run calls) ∧
      (run calls).values.map (fun m => (m.qualifiedName, m.location.file, m.bindings.size)) =
        [("app::Home", "", 0), ("app::ui::Home", "", 2), ("app::ui::Home::Home", "", 1)] := by
  intro home condition moved inner bare title calls
  have plain : ∀ c ∈ calls, c.host.identity.Plain := by decide
  exact ⟨plain, run_groups_by_identity plain, by decide +kernel⟩

end ModelCall

end SlotBinding
