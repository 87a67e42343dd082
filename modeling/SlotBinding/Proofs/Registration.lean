import SlotBinding.Proofs.Injection

/-!
# Binders by the calls that registered them

A registry is what calls of `register` and `install` have made of an empty one. `get?_after`: under each
name it holds the binder that was last registered under the name. `locate_fits` says from there which
binder a host gets, if it gets one, and why it gets none.
-/

namespace SlotBinding

namespace Registry

inductive Call
  | register (b : Binder)
  | install (table : List Binder)

def Call.binders : Call → List Binder
  | register b => [b]
  | install table => table

def Call.run (r : Registry) : Call → Registry
  | register b => (r.register b).2
  | install table => r.install table

/-- The registry after some calls, which had no binder before. -/
def after (calls : List Call) : Registry := calls.foldl Call.run {}

def registered (calls : List Call) : List Binder := calls.flatMap Call.binders

def lastNamed? (name : String) (bs : List Binder) : Option Binder :=
  bs.reverse.find? fun b => b.name = name

theorem lastNamed?_append (name : String) (bs cs : List Binder) :
    lastNamed? name (bs ++ cs) = (lastNamed? name cs).or (lastNamed? name bs) := by
  rw [lastNamed?, List.reverse_append, List.find?_append]
  rfl

theorem name_of_lastNamed? {name : String} {bs : List Binder} {b : Binder}
    (last : lastNamed? name bs = some b) : b.name = name := by
  have named := List.find?_some last
  exact of_decide_eq_true named

theorem mem_of_lastNamed? {name : String} {bs : List Binder} {b : Binder}
    (last : lastNamed? name bs = some b) : b ∈ bs :=
  List.mem_reverse.mp (List.mem_of_find?_eq_some last)

theorem get?_register (r : Registry) (b : Binder) (name : String) :
    (r.register b).2.get? name = (lastNamed? name [b]).or (r.get? name) := by
  have single : lastNamed? name [b] = if b.name = name then some b else none := by
    by_cases own : b.name = name <;> simp [lastNamed?, own]
  rw [single]
  by_cases own : b.name = name
  · rw [if_pos own, ← own]
    exact SortedMap.get?_insert_self r b.name b
  · rw [if_neg own]
    exact SortedMap.get?_insert_of_ne r (Ne.symm own) b

theorem get?_install (r : Registry) (table : List Binder) (name : String) :
    (r.install table).get? name = (lastNamed? name table).or (r.get? name) := by
  induction table generalizing r with
  | nil => rfl
  | cons b rest ih =>
    have front : r.install (b :: rest) = (r.register b).2.install rest := rfl
    rw [front, ih, get?_register, ← Option.or_assoc, ← lastNamed?_append, List.singleton_append]

theorem get?_run (r : Registry) (call : Call) (name : String) :
    (call.run r).get? name = (lastNamed? name call.binders).or (r.get? name) := by
  cases call with
  | register b => exact get?_register r b name
  | install table => exact get?_install r table name

theorem get?_foldl_run (calls : List Call) (r : Registry) (name : String) :
    (calls.foldl Call.run r).get? name = (lastNamed? name (registered calls)).or (r.get? name) := by
  induction calls generalizing r with
  | nil => rfl
  | cons call rest ih =>
    rw [List.foldl_cons, ih, get?_run, ← Option.or_assoc, ← lastNamed?_append]
    rfl

theorem get?_after (calls : List Call) (name : String) :
    (after calls).get? name = lastNamed? name (registered calls) := by
  rw [after, get?_foldl_run]
  exact Option.or_none

/-- Why a host gets no binder, given what is registered under the name that it asks for. A binder for
another contract is refused as such, whatever host it is for. -/
inductive Refuses (h : HostType) : Option Binder → LocateError → Prop
  | absent : Refuses h none (.binderNotFound h.binderName)
  | outdated {b : Binder} (other : b.version ≠ contractVersion) :
      Refuses h (some b) (.contractMismatch h.binderName b.version)
  | foreign {b : Binder} (current : b.version = contractVersion) (other : b.host ≠ h) :
      Refuses h (some b) (.hostMismatch h.binderName h.name)

theorem locate_error_iff {r : Registry} {h : HostType} {e : LocateError}
    (named : ∀ b, r.get? h.binderName = some b → b.name = h.binderName) :
    r.locate h = .error e ↔ Refuses h (r.get? h.binderName) e := by
  cases found : r.get? h.binderName with
  | none =>
    have none : r.locate h = .error (.binderNotFound h.binderName) :=
      ((looksFor_binderName h r).1).mpr found
    rw [none]
    constructor
    · rintro ⟨⟩
      exact .absent
    · rintro ⟨⟩
      rfl
  | some b =>
    rw [locate_of_get? found, named b found]
    by_cases current : b.version = contractVersion
    · rw [if_pos current]
      by_cases own : b.host = h
      · rw [if_pos own]
        constructor
        · rintro ⟨⟩
        · rintro (_ | outdated | ⟨_, other⟩)
          · exact absurd current outdated
          · exact absurd own other
      · rw [if_neg own]
        constructor
        · rintro ⟨⟩
          exact .foreign current own
        · rintro (_ | outdated | _)
          · exact absurd current outdated
          · rfl
    · rw [if_neg current]
      constructor
      · rintro ⟨⟩
        exact .outdated current
      · rintro (_ | _ | ⟨same, _⟩)
        · rfl
        · exact absurd same current

theorem inject_of_locate_error {r : Registry} {h : HostObject} {e : LocateError}
    (refused : r.locate h.type = .error e) (source : ValueSource) :
    r.inject h source = (h, .error (.locate e)) := by
  rw [inject, refused]
  rfl

theorem inject_of_locate_ok {r : Registry} {h : HostObject} {b : Binder}
    (located : r.locate h.type = .ok b) (source : ValueSource) :
    r.inject h source = outcome (b.inject h source) := by
  rw [inject, located]
  rfl

end Registry

/-! ### Binders of the generated form -/

/-- The host type that the binder gives as its own is the one it takes. -/
def Binder.Coherent (b : Binder) : Prop := b.expects = b.host

theorem HostModel.coherent_binder (m : HostModel) (host : HostType) (types : BoundField → ValueType) :
    (m.binder host types).Coherent := rfl

/-- The text of a binder gives one type twice: as the type of its hosts, and as the type to which its
injection narrows the host. -/
def TypesOnce (r : Renderer) (m : HostModel) (text : String) : Prop :=
  ∃ front typePath, m.typePath = .ok typePath ∧
    text = phrases (front ++ Renderer.descriptions typePath ++ r.injection m typePath ++ ["\x7d"]) ∧
    SpellsBody r typePath m.statements (r.body m typePath)

theorem typesOnce_of_binder {g : Generator} {m : HostModel} {text : String}
    (made : g.renderer.binder m = .ok text) : TypesOnce g.renderer m text := by
  obtain ⟨ident, typePath, _, pathOk, spelled⟩ := isBinderText_of_binder made
  let front := Renderer.declaration m ident ++ Renderer.nameConstant m ident ++
    (Renderer.conditions m ++ ["impl", g.renderer.runtime, ":: Binder for", ident, "\x7b"])
  refine ⟨front, typePath, pathOk, ?_, spellsBody_body g.renderer m typePath⟩
  rw [spelled, Renderer.contract]
  simp only [front, List.append_assoc]

theorem Binder.Coherent.inject_ne_hostMismatch {b : Binder} (coherent : b.Coherent) {h : HostObject}
    (own : b.host = h.type) (source : ValueSource) (binder expected : String) :
    (b.inject h source).2 ≠ .error (.hostMismatch binder expected) := by
  intro mismatch
  have same : h.type = b.expects := own.symm.trans coherent.symm
  generalize injected : b.inject h source = out at mismatch
  obtain ⟨h', result⟩ := out
  obtain rfl : result = .error (.hostMismatch binder expected) := mismatch
  cases Binder.inject_iff.mp injected with
  | refused other => exact other same
  | stopped _ _ _ fails => cases fails

namespace Registry

theorem inject_ne_hostMismatch {r : Registry} {h : HostObject}
    (coherent : ∀ b, r.get? h.type.binderName = some b → b.Coherent) (source : ValueSource)
    (binder expected : String) :
    (r.inject h source).2 ≠ .error (.inject (.hostMismatch binder expected)) := by
  intro mismatch
  cases located : r.locate h.type with
  | error e =>
    rw [inject_of_locate_error located] at mismatch
    cases mismatch
  | ok b =>
    obtain ⟨found, _, own⟩ := ((looksFor_binderName h.type r).2 b).mp located
    rw [inject_of_locate_ok located, outcome] at mismatch
    cases result : (b.inject h source).2 with
    | ok u =>
      rw [result] at mismatch
      cases mismatch
    | error e =>
      rw [result] at mismatch
      obtain rfl : e = .hostMismatch binder expected := by
        simpa [Except.mapError] using mismatch
      exact (coherent b found).inject_ne_hostMismatch own source binder expected result

/-- After any calls, a host gets the binder that was last registered under its name, if that one is of the
current contract and for the type of the host. Otherwise the host stays as it is, and the error is the first
that applies: no binder of the name, a binder of another contract, a binder for another host. Binders that
take the type they are for do not refuse a host that got them, and the generated binders are such. -/
theorem locate_fits (calls : List Call) (h : HostObject) (source : ValueSource) :
    let r := after calls
    let last := lastNamed? h.type.binderName (registered calls)
    (∀ b, r.locate h.type = .ok b ↔ last = some b ∧ b.version = contractVersion ∧ b.host = h.type) ∧
    (∀ e, r.locate h.type = .error e ↔ Refuses h.type last e) ∧
    (∀ e, r.locate h.type = .error e → r.inject h source = (h, .error (.locate e))) ∧
    (∀ b, r.locate h.type = .ok b → r.inject h source = outcome (b.inject h source)) ∧
    ((∀ b ∈ registered calls, b.Coherent) → ∀ binder expected,
      (r.inject h source).2 ≠ .error (.inject (.hostMismatch binder expected))) ∧
    ∀ (g : Generator) (m : HostModel), (∀ host types, (m.binder host types).Coherent) ∧
      ∀ text, g.renderer.binder m = .ok text → TypesOnce g.renderer m text := by
  intro r last
  have held : r.get? h.type.binderName = last := get?_after calls h.type.binderName
  refine ⟨fun b => ?_, fun e => ?_, fun e refused => inject_of_locate_error refused source,
    fun b located => inject_of_locate_ok located source, fun coherent => ?_, fun g m => ?_⟩
  · rw [← held]
    exact (looksFor_binderName h.type r).2 b
  · rw [← held]
    apply locate_error_iff
    intro b found
    rw [held] at found
    exact name_of_lastNamed? found
  · apply inject_ne_hostMismatch
    intro b found
    rw [held] at found
    exact coherent b (mem_of_lastNamed? found)
  · exact ⟨m.coherent_binder, fun text made => typesOnce_of_binder made⟩

/-- A binder of an old contract is replaced by one for a host of another type, and that by the host's own. -/
theorem locate_fits_replaced :
    let home : HostType := ⟨"app::Home", "app::Home"⟩
    let guest : HostType := ⟨"other::Home", "app::Home"⟩
    let named (version : Nat) (host : HostType) : Binder :=
      { name := "app::Home$$Bind", version, host, assignments := [⟨1, "title", .label⟩] }
    let stale := named 0 guest
    let foreign := named 1 guest
    let own := named 1 home
    let h : HostObject := ⟨home, [("title", .label "")]⟩
    let source : ValueSource := SlotMap.source ⟨[(1, .label "a")]⟩
    let first : List Call := [.install [own, stale]]
    let second := first ++ [.register foreign]
    let third := second ++ [.install [own]]
    (after first).inject h source = (h, .error (.locate (.contractMismatch "app::Home$$Bind" 0))) ∧
    (after second).inject h source =
      (h, .error (.locate (.hostMismatch "app::Home$$Bind" "app::Home"))) ∧
    (after third).locate home = .ok own ∧
    ((after third).inject h source).2 ≠
      .error (.inject (.hostMismatch "app::Home$$Bind" "app::Home")) := by
  intro home guest named stale foreign own h source first second third
  have name : home.binderName = "app::Home$$Bind" := by decide
  obtain ⟨_, refusedFirst, untouchedFirst, _⟩ := locate_fits first h source
  obtain ⟨_, refusedSecond, untouchedSecond, _⟩ := locate_fits second h source
  obtain ⟨fits, _, _, _, coherent, _⟩ := locate_fits third h source
  refine ⟨untouchedFirst _ ((refusedFirst _).mpr ?_), untouchedSecond _ ((refusedSecond _).mpr ?_),
    (fits own).mpr ⟨?_, rfl, rfl⟩, coherent ?_ _ _⟩
  · have last : lastNamed? home.binderName (registered first) = some stale := by decide
    rw [last, ← name]
    exact .outdated (by decide)
  · have last : lastNamed? home.binderName (registered second) = some foreign := by decide
    rw [last, ← name]
    exact .foreign rfl (by decide)
  · decide
  · intro b member
    have all : ∀ b ∈ registered third, b.expects = b.host := by decide
    exact all b member

end Registry

end SlotBinding
