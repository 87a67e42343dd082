import Mathlib.Data.List.Forall2
import SlotBinding.Injection.Binder
import SlotBinding.Proofs.Collection.InsertionMap
import SlotBinding.Proofs.Numerals

/-!
# The statements of a generated injection

`HostModel.statements` lists what the body of an injection does, statement by statement, and
`Statement.runAll` runs the list. `spellsBody_body`: the generated lines are these statements.
`runAll_statements`: running them is what the binder of the model does.
-/

namespace SlotBinding

inductive Statement
  /-- Narrows the host to its type, to assign its fields. -/
  | narrow
  /-- Narrows the host to its type, only to check it. -/
  | check
  | dropSource
  /-- Assigns a field from a slot. -/
  | assign (slot : Int32) (field : BoundField)

namespace Statement

def target? : Statement → Option String
  | assign _ f => some f.name
  | _ => none

variable (name : String) (host : HostType) (types : BoundField → ValueType) (source : ValueSource)

/-- Runs a statement of the binder of a name, which is for a host type and takes the types of the fields
from there. -/
def run (h : HostObject) : Statement → HostObject × Except InjectError Unit
  | narrow | check => (h, (narrowHost h host name).map fun _ => ())
  | dropSource => (h, .ok ())
  | assign slot f =>
    match fetch source slot (types f) name with
    | .error e => (h, .error e)
    | .ok v => (h.assign f.name v, .ok ())

def runAll : List Statement → HostObject → HostObject × Except InjectError Unit
  | [], h => (h, .ok ())
  | s :: rest, h =>
    match s.run name host types source h with
    | (h, .error e) => (h, .error e)
    | (h, .ok ()) => runAll rest h

end Statement

namespace HostModel

def statements (m : HostModel) : List Statement :=
  if m.bindings.isEmpty then [.check, .dropSource]
  else .narrow :: m.bindings.toList.map fun b => .assign b.1 b.2

/-- The binder that is generated for a host, if the host has a type whose fields have types. -/
def binder (m : HostModel) (host : HostType) (types : BoundField → ValueType) : Binder :=
  { name := m.binderName, version := contractVersion, host
    assignments := m.bindings.toList.map fun b => ⟨b.1, b.2.name, types b.2⟩ }

theorem targets_statements (m : HostModel) :
    m.statements.filterMap (·.target?) = m.bindings.toList.map (·.2.name) := by
  unfold statements
  split
  · rename_i empty
    rw [InsertionMap.toList_of_isEmpty empty]
    rfl
  · rw [List.filterMap_cons_none rfl, List.filterMap_map]
    exact congrFun List.filterMap_eq_map _

end HostModel

namespace Statement

variable {host : HostType} {types : BoundField → ValueType} {source : ValueSource}

theorem runAll_assign (name : String) (bs : List (Int32 × BoundField)) (h : HostObject) :
    runAll name host types source (bs.map fun b => assign b.1 b.2) h =
      Binder.assignAll name source (bs.map fun b => ⟨b.1, b.2.name, types b.2⟩) h := by
  induction bs generalizing h with
  | nil => rfl
  | cons b rest ih =>
    rw [List.map_cons, List.map_cons, runAll, Binder.assignAll, run]
    cases fetch source b.1 (types b.2) name with
    | error e => rfl
    | ok v => exact ih (h.assign b.2.name v)

theorem runAll_statements (m : HostModel) (h : HostObject) :
    runAll m.binderName host types source m.statements h = (m.binder host types).inject h source := by
  unfold HostModel.statements Binder.inject
  split
  · rename_i empty
    have none : (m.binder host types).assignments = [] := by
      rw [HostModel.binder, InsertionMap.toList_of_isEmpty empty]
      rfl
    rw [none, runAll, run]
    unfold narrowHost
    by_cases own : h.type = host <;> simp [HostModel.binder, own, Except.map, runAll, run, Binder.assignAll]
  · rw [runAll, run]
    unfold narrowHost
    by_cases own : h.type = host
    · simp only [HostModel.binder, own, if_true, Except.map]
      exact runAll_assign m.binderName m.bindings.toList h
    · simp [HostModel.binder, own, Except.map]

end Statement

namespace IntegerLiteral

theorem isSuffix_i32 (body : List Char) : IsSuffix .decimal body "i32".toList :=
  isSuffix_of_isWord (by decide) (by decide) (by decide) .decimal body

theorem ofChars?_toDigits (n : Nat) :
    ofChars? (Nat.toDigits 10 n ++ "i32".toList) = some ⟨n, "i32".toList⟩ := by
  have read := (Numeral.decimal (digits_of_toDigits n) (isSuffix_i32 _)).ofChars?_text
  rwa [Numeral.text_decimal, Numeral.value_decimal, Nat.ofDigitChars_toDigits (by decide) (by decide)] at read

end IntegerLiteral

/-- The text is a slot as an integer literal with its type; a sign is a phrase before it. -/
def SpellsSlot (text : String) (slot : Int32) : Prop :=
  ∃ n : Nat, ∃ digits, IntegerLiteral.ofChars? digits = some ⟨n, "i32".toList⟩ ∧
    (slot.toInt = n ∧ text.toList = digits ∨
      slot.toInt < 0 ∧ slot.toInt = -n ∧ text.toList = '-' :: ' ' :: digits)

theorem spellsSlot_slotLiteral (slot : Int32) : SpellsSlot (Renderer.slotLiteral slot) slot := by
  have digits := IntegerLiteral.ofChars?_toDigits slot.toInt.natAbs
  refine ⟨_, _, digits, ?_⟩
  unfold Renderer.slotLiteral
  by_cases sign : slot.toInt < 0
  · refine Or.inr ⟨sign, by omega, ?_⟩
    simp [sign]
  · refine Or.inl ⟨by omega, ?_⟩
    simp [sign]

inductive Statement.Spells (r : Renderer) (typePath : String) : Statement → List String → Prop where
  | narrow : Spells r typePath .narrow ["let host =", r.narrowing typePath]
  | check : Spells r typePath .check ["let _ =", r.narrowing typePath]
  | dropSource : Spells r typePath .dropSource ["let _ = source ;"]
  | assign {slot : Int32} {f : BoundField} {literal : String} (spells : SpellsSlot literal slot) :
      Spells r typePath (.assign slot f)
        [phrases ["host", ".", f.name, "=", r.runtime, ":: __internal :: fetch (source ,", literal,
          ", Self :: NAME) ? ;"]]

/-- The lines are those of the statements, in order. -/
def SpellsBody (r : Renderer) (typePath : String) (statements : List Statement) (lines : List String) :
    Prop :=
  ∃ parts : List (List String), List.Forall₂ (Statement.Spells r typePath) statements parts ∧
    lines = parts.flatten

theorem spellsBody_body (r : Renderer) (m : HostModel) (typePath : String) :
    SpellsBody r typePath m.statements (r.body m typePath) := by
  unfold HostModel.statements Renderer.body
  split
  · exact ⟨[_, _], .cons .check (.cons .dropSource .nil), rfl⟩
  · refine ⟨_ :: m.bindings.toList.map fun b => [r.statement b.1 b.2], .cons .narrow ?_, ?_⟩
    · rw [List.forall₂_map_left_iff, List.forall₂_map_right_iff, List.forall₂_same]
      exact fun b _ => .assign (spellsSlot_slotLiteral b.1)
    · rw [List.flatten_cons, ← List.flatMap_def, ← List.map_eq_flatMap]
      rfl

end SlotBinding
