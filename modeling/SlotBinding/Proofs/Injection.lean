import SlotBinding.Proofs.InjectionBody
import SlotBinding.Proofs.PathContract

/-!
# What an injection leaves of a host

`Assigns` performs assignments that all take a value. `assignAll_ok_iff` and `assignAll_error_iff` say that
a run performs all of them, or those before the first that takes none. From there
`inject_assigns_before_failure` says all that an injection can do to a host, and that doing it again
changes nothing.
-/

namespace SlotBinding

def Assignment.Takes (a : Assignment) (source : ValueSource) (v : Value) : Prop :=
  source a.slot = some v ∧ v.type = a.type

inductive Assignment.Fails (a : Assignment) (source : ValueSource) (binder : String) : InjectError → Prop
    where
  | missing (absent : source a.slot = none) : Fails a source binder (.missingSlot binder a.slot)
  | mistyped {v : Value} (given : source a.slot = some v) (other : v.type ≠ a.type) :
      Fails a source binder (.typeMismatch binder a.slot a.type)

/-- Assignments that all take their values, performed in order. -/
inductive Assigns (source : ValueSource) : List Assignment → HostObject → HostObject → Prop where
  | nil (h : HostObject) : Assigns source [] h h
  | cons {a : Assignment} {v : Value} {rest : List Assignment} {h h' : HostObject}
      (takes : a.Takes source v) (tail : Assigns source rest (h.assign a.field v) h') :
      Assigns source (a :: rest) h h'

/-- How an injection can end: a host of another type stays, all assignments are performed, or those
before the first that fails. -/
inductive Binder.Ends (b : Binder) (source : ValueSource) (h : HostObject) :
    HostObject → Except InjectError Unit → Prop where
  | refused (other : h.type ≠ b.expects) : Ends b source h h (.error (.hostMismatch b.name b.expects.name))
  | assigned {h' : HostObject} (own : h.type = b.expects) (all : Assigns source b.assignments h h') :
      Ends b source h h' (.ok ())
  | stopped {h' : HostObject} {before after : List Assignment} {a : Assignment} {e : InjectError}
      (own : h.type = b.expects) (parts : b.assignments = before ++ a :: after)
      (front : Assigns source before h h') (fails : a.Fails source b.name e) :
      Ends b source h h' (.error e)

variable {source : ValueSource}

theorem fetch_ok_iff {a : Assignment} {binder : String} {v : Value} :
    fetch source a.slot a.type binder = .ok v ↔ a.Takes source v := by
  unfold fetch Assignment.Takes
  cases given : source a.slot with
  | none => simp
  | some w =>
    dsimp only
    split
    · rename_i own
      constructor
      · rintro ⟨⟩
        exact ⟨rfl, own⟩
      · rintro ⟨⟨⟩, _⟩
        rfl
    · rename_i other
      constructor
      · rintro ⟨⟩
      · rintro ⟨⟨⟩, own⟩
        exact absurd own other

theorem fetch_error_iff {a : Assignment} {binder : String} {e : InjectError} :
    fetch source a.slot a.type binder = .error e ↔ a.Fails source binder e := by
  unfold fetch
  constructor
  · intro failed
    split at failed
    · rename_i absent
      cases failed
      exact .missing absent
    · rename_i v given
      split at failed
      · cases failed
      · rename_i other
        cases failed
        exact .mistyped given other
  · rintro (absent | ⟨given, other⟩)
    · rw [absent]
    · rw [given]
      exact if_neg other

theorem assignAll_ok_iff {binder : String} {as : List Assignment} {h h' : HostObject} :
    Binder.assignAll binder source as h = (h', .ok ()) ↔ Assigns source as h h' := by
  induction as generalizing h with
  | nil =>
    constructor
    · rintro ⟨⟩
      exact .nil _
    · rintro ⟨⟩
      rfl
  | cons a rest ih =>
    rw [Binder.assignAll]
    constructor
    · intro done
      split at done
      · cases done
      · rename_i v fetched
        exact .cons (fetch_ok_iff.mp fetched) (ih.mp done)
    · intro assigns
      cases assigns with
      | cons takes tail =>
        rw [fetch_ok_iff.mpr takes]
        exact ih.mpr tail

theorem assignAll_error_iff {binder : String} {as : List Assignment} {h h' : HostObject} {e : InjectError} :
    Binder.assignAll binder source as h = (h', .error e) ↔
      ∃ before a after, as = before ++ a :: after ∧ Assigns source before h h' ∧
        a.Fails source binder e := by
  induction as generalizing h with
  | nil =>
    constructor
    · rintro ⟨⟩
    · rintro ⟨before, a, after, parts, _⟩
      cases before <;> cases parts
  | cons a rest ih =>
    rw [Binder.assignAll]
    constructor
    · intro stopped
      split at stopped
      · rename_i f fetched
        cases stopped
        exact ⟨[], a, rest, rfl, .nil _, fetch_error_iff.mp fetched⟩
      · rename_i v fetched
        obtain ⟨before, b, after, rfl, front, fails⟩ := ih.mp stopped
        exact ⟨a :: before, b, after, rfl, .cons (fetch_ok_iff.mp fetched) front, fails⟩
    · rintro ⟨before, b, after, parts, front, fails⟩
      cases front with
      | nil =>
        obtain ⟨rfl, rfl⟩ := List.cons.inj parts
        rw [fetch_error_iff.mpr fails]
      | cons takes tail =>
        obtain ⟨rfl, rfl⟩ := List.cons.inj parts
        rw [fetch_ok_iff.mpr takes]
        exact ih.mpr ⟨_, b, after, rfl, tail, fails⟩

/-! ### The fields after assignments -/

/-- The value that the last assignment of a field takes. -/
def lastTaken? (source : ValueSource) (as : List Assignment) (field : String) : Option Value :=
  as.reverse.findSome? fun a => if a.field = field then source a.slot else none

theorem lastTaken?_cons (a : Assignment) (rest : List Assignment) (field : String) :
    lastTaken? source (a :: rest) field =
      (lastTaken? source rest field).or (if a.field = field then source a.slot else none) := by
  rw [lastTaken?, List.reverse_cons, List.findSome?_append, List.findSome?_singleton]
  rfl

theorem lastTaken?_of_not_mem {as : List Assignment} {field : String}
    (other : ∀ a ∈ as, a.field ≠ field) : lastTaken? source as field = none := by
  rw [lastTaken?, List.findSome?_eq_none_iff]
  intro a member
  exact if_neg (other a (List.mem_reverse.mp member))

attribute [ext] HostObject

namespace Assigns

variable {as : List Assignment} {h h' : HostObject}

theorem type_eq (assigns : Assigns source as h h') : h'.type = h.type := by
  induction assigns with
  | nil h => rfl
  | cons takes tail ih => exact ih

theorem fields_eq (assigns : Assigns source as h h') :
    h'.fields = h.fields.map fun f => (f.1, (lastTaken? source as f.1).getD f.2) := by
  induction assigns with
  | nil h => exact (List.map_id _).symm
  | @cons a v rest h h' takes tail ih =>
    rw [ih, HostObject.assign, List.map_map]
    refine List.map_congr_left fun f member => ?_
    rw [lastTaken?_cons]
    by_cases own : f.1 = a.field
    · -- A later assignment of the field wins over this one.
      rw [Function.comp_apply, if_pos own, if_pos own.symm, takes.1, own]
      cases lastTaken? source rest a.field <;> rfl
    · rw [Function.comp_apply, if_neg own, if_neg (Ne.symm own), Option.or_none]

theorem field?_eq (assigns : Assigns source as h h') (field : String) :
    h'.field? field = (h.field? field).map fun old => (lastTaken? source as field).getD old := by
  rw [HostObject.field?, assigns.fields_eq, List.find?_map, HostObject.field?]
  have same : (fun f : String × Value => decide (f.1 = field)) ∘
      (fun f : String × Value => (f.1, (lastTaken? source as f.1).getD f.2)) =
        fun f => decide (f.1 = field) := rfl
  rw [same]
  cases found : h.fields.find? fun f => f.1 = field with
  | none => rfl
  | some f =>
    have name : f.1 = field := by simpa using List.find?_some found
    simp [name]

theorem names_eq (assigns : Assigns source as h h') : h'.fields.map (·.1) = h.fields.map (·.1) := by
  rw [assigns.fields_eq, List.map_map]
  rfl

theorem exists_of_takes (all : ∀ a ∈ as, ∃ v, a.Takes source v) (h : HostObject) :
    ∃ h', Assigns source as h h' := by
  induction as generalizing h with
  | nil => exact ⟨h, .nil h⟩
  | cons a rest ih =>
    obtain ⟨v, takes⟩ := all a List.mem_cons_self
    obtain ⟨h', tail⟩ := ih (fun b member => all b (List.mem_cons_of_mem _ member)) (h.assign a.field v)
    exact ⟨h', .cons takes tail⟩

theorem takes_of_mem (assigns : Assigns source as h h') : ∀ a ∈ as, ∃ v, a.Takes source v := by
  induction assigns with
  | nil h => simp
  | @cons a v rest h h' takes tail ih =>
    intro b member
    rcases List.mem_cons.mp member with rfl | later
    · exact ⟨v, takes⟩
    · exact ih b later

theorem again (assigns : Assigns source as h h') : Assigns source as h' h' := by
  obtain ⟨h'', twice⟩ := exists_of_takes assigns.takes_of_mem h'
  -- Every field already has its last value.
  have fields : h''.fields = h'.fields := by
    rw [twice.fields_eq, assigns.fields_eq, List.map_map]
    refine List.map_congr_left fun f member => ?_
    rw [Function.comp_apply]
    cases lastTaken? source as f.1 <;> rfl
  obtain rfl : h'' = h' := HostObject.ext twice.type_eq fields
  exact twice

end Assigns

/-! ### The whole injection -/

namespace Binder

theorem inject_iff {b : Binder} {h h' : HostObject} {result : Except InjectError Unit} :
    b.inject h source = (h', result) ↔ b.Ends source h h' result := by
  unfold inject narrowHost
  by_cases own : h.type = b.expects
  · rw [if_pos own]
    dsimp only
    cases result with
    | ok u =>
      rw [assignAll_ok_iff]
      constructor
      · exact .assigned own
      · rintro (other | ⟨_, all⟩)
        exact all
    | error e =>
      rw [assignAll_error_iff]
      constructor
      · rintro ⟨before, a, after, parts, front, fails⟩
        exact .stopped own parts front fails
      · rintro (other | _ | ⟨_, parts, front, fails⟩)
        · exact absurd own other
        · exact ⟨_, _, _, parts, front, fails⟩
  · rw [if_neg own]
    constructor
    · rintro ⟨⟩
      exact .refused own
    · rintro (_ | ⟨same, _⟩ | ⟨same, _⟩)
      · rfl
      · exact absurd same own
      · exact absurd same own

theorem inject_ok_iff {b : Binder} {h : HostObject} :
    (b.inject h source).2 = .ok () ↔ h.type = b.expects ∧ ∀ a ∈ b.assignments, ∃ v, a.Takes source v := by
  constructor
  · intro ok
    generalize injected : b.inject h source = out at ok
    obtain ⟨h', result⟩ := out
    cases inject_iff.mp injected with
    | assigned own all => exact ⟨own, all.takes_of_mem⟩
    | refused => cases ok
    | stopped => cases ok
  · rintro ⟨own, all⟩
    obtain ⟨h', assigns⟩ := Assigns.exists_of_takes all h
    rw [inject_iff.mpr (.assigned own assigns)]

theorem inject_again (b : Binder) (h : HostObject) (source : ValueSource) :
    b.inject (b.inject h source).1 source = b.inject h source := by
  generalize injected : b.inject h source = out
  obtain ⟨h', result⟩ := out
  refine inject_iff.mpr ?_
  cases inject_iff.mp injected with
  | refused other => exact .refused other
  | assigned own all => exact .assigned (all.type_eq.trans own) all.again
  | stopped own parts front fails => exact .stopped (front.type_eq.trans own) parts front.again fails

end Binder

namespace Registry

/-- What becomes of an injection in a registry that found the binder. -/
def outcome (injected : HostObject × Except InjectError Unit) : HostObject × Except BindingError Unit :=
  (injected.1, injected.2.mapError .inject)

theorem injectByName_of_get? {r : Registry} {b : Binder} (found : r.get? b.name = some b)
    (current : b.version = contractVersion) (h : HostObject) (source : ValueSource) :
    r.injectByName b.name h source = outcome (b.inject h source) := by
  rw [injectByName, locateByName, found]
  dsimp only
  rw [if_pos current]
  rfl

theorem inject_of_get? {r : Registry} {b : Binder} (found : r.get? b.name = some b)
    (current : b.version = contractVersion) {h : HostObject} (own : b.host = h.type)
    (name : h.type.binderName = b.name) (source : ValueSource) :
    r.inject h source = outcome (b.inject h source) := by
  rw [← name] at found
  rw [inject, locate_of_get? found, if_pos current, if_pos own]
  rfl

end Registry

/-- The statements of a generated binder do what the binder does. An injection goes through exactly if the
host has the type of the binder and the source has a value of the right type for every slot. A host of
another type stays as it is. Else the assignments before the first that fails are performed, and the error
names the slot of that one. A field has the last value that was assigned to it, and the others keep theirs.
A second injection from the same source changes nothing and ends in the same way. An injection by way of a
registry comes to the same. -/
theorem inject_assigns_before_failure (g : Generator) (m : HostModel) (host : HostType)
    (types : BoundField → ValueType) (h : HostObject) (source : ValueSource) :
    let b := m.binder host types
    (∀ text, g.renderer.binder m = .ok text → NamesBinder g m text b.name) ∧
    (∀ typePath, SpellsBody g.renderer typePath m.statements (g.renderer.body m typePath)) ∧
    Statement.runAll b.name host types source m.statements h = b.inject h source ∧
    (∀ h' result, b.inject h source = (h', result) ↔ b.Ends source h h' result) ∧
    ((b.inject h source).2 = .ok () ↔
      h.type = host ∧ ∀ e ∈ m.bindings.toList, ∃ v, source e.1 = some v ∧ v.type = types e.2) ∧
    (∀ as h', Assigns source as h h' →
      h'.type = h.type ∧ h'.fields.map (·.1) = h.fields.map (·.1) ∧ ∀ field,
        h'.field? field = (h.field? field).map (fun old => (lastTaken? source as field).getD old) ∧
        ((∀ a ∈ as, a.field ≠ field) → h'.field? field = h.field? field)) ∧
    b.inject (b.inject h source).1 source = b.inject h source ∧
    ∀ r : Registry, r.get? b.name = some b →
      r.injectByName b.name h source = Registry.outcome (b.inject h source) ∧
      (h.type = host → host.path = m.qualifiedName →
        r.inject h source = Registry.outcome (b.inject h source)) := by
  intro b
  refine ⟨fun _ made => namesBinder_of_binder made, spellsBody_body g.renderer m,
    Statement.runAll_statements m h, fun _ _ => Binder.inject_iff, ?_, ?_, b.inject_again h source, ?_⟩
  · rw [Binder.inject_ok_iff]
    apply and_congr Iff.rfl
    exact List.forall_mem_map
  · intro as h' assigns
    refine ⟨assigns.type_eq, assigns.names_eq, fun field => ⟨assigns.field?_eq field, fun other => ?_⟩⟩
    rw [assigns.field?_eq, lastTaken?_of_not_mem other]
    exact Option.map_id' ..
  · intro r found
    refine ⟨Registry.injectByName_of_get? found rfl h source, fun own path => ?_⟩
    refine Registry.inject_of_get? found rfl own.symm ?_ source
    rw [own, HostType.binderName, path]
    rfl

/-- Two slots assign one field, and the value of the third slot is of another type than its field. -/
theorem inject_assigns_before_mistyped :
    let g : Generator := { config := .ofCrate "app", renderer := { runtime := ":: viewbind" } }
    let field (name : String) : BoundField := ⟨.named name, [.ofWord "Label"]⟩
    let m := ((HostModel.ofHost (.visible "app" [] "Home")).bind 1 (field "title")).bind 2 (field "title")
      |>.bind 3 (field "visits")
    let host : HostType := ⟨"app::Home", "app::Home"⟩
    let types (f : BoundField) : ValueType := if f.name = "visits" then .nat32 else .label
    let source : ValueSource := SlotMap.source ⟨[(1, .label "a"), (2, .label "b"), (3, .label "c")]⟩
    let h : HostObject := ⟨host, [("title", .label ""), ("visits", .nat32 0), ("note", .unit)]⟩
    let error : InjectError := .typeMismatch "app::Home$$Bind" 3 .nat32
    ∃ text h', g.renderer.binder m = .ok text ∧ NamesBinder g m text "app::Home$$Bind" ∧
      (m.binder host types).inject h source = (h', .error error) ∧
      h'.fields = [("title", .label "b"), ("visits", .nat32 0), ("note", .unit)] ∧
      h'.field? "note" = h.field? "note" ∧ (m.binder host types).inject h' source = (h', .error error) := by
  intro g field m host types source h error
  obtain ⟨names, _, _, ends, _, frame, again, _⟩ := inject_assigns_before_failure g m host types h source
  obtain ⟨text, made⟩ : ∃ text, g.renderer.binder m = .ok text := by
    cases made : g.renderer.binder m with
    | ok text => exact ⟨text, rfl⟩
    | error f =>
      have renders : (g.renderer.binder m).isOk = true := by decide +kernel
      rw [made] at renders
      cases renders
  have parts : (m.binder host types).assignments =
      [⟨1, "title", .label⟩, ⟨2, "title", .label⟩] ++ [⟨3, "visits", .nat32⟩] := by decide +kernel
  have front : Assigns source [⟨1, "title", .label⟩, ⟨2, "title", .label⟩] h
      ((h.assign "title" (.label "a")).assign "title" (.label "b")) :=
    .cons ⟨by decide, rfl⟩ (.cons ⟨by decide, rfl⟩ (.nil _))
  have third : source 3 = some (.label "c") := by decide
  have fails : Assignment.Fails ⟨3, "visits", .nat32⟩ source "app::Home$$Bind" error :=
    .mistyped third (by decide)
  have name : m.binderName = "app::Home$$Bind" := by decide +kernel
  have stopped := (ends _ _).mpr (.stopped rfl parts front (name ▸ fails))
  refine ⟨text, _, made, name ▸ names text made, stopped, rfl, ?_, ?_⟩
  · exact ((frame _ _ front).2.2 "note").2 (by decide)
  · rw [stopped] at again
    exact again

end SlotBinding
