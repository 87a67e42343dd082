import SlotBinding.Injection.Value
import SlotBinding.Render.Binder

/-!
# Binders and hosts

A binder assigns the fields of a host from a value source, one statement after the other. It stops at
the first slot without a fitting value; what was assigned before stays.
-/

namespace SlotBinding

/-- The type of a host, known by its name, and the path under which its binder is registered. -/
structure HostType where
  name : String
  path : String
  deriving Repr, DecidableEq, Inhabited

def HostType.binderName (h : HostType) : String := SlotBinding.binderName h.path

/-- A host: its type and the values of its fields. -/
structure HostObject where
  type : HostType
  fields : List (String × Value)
  deriving Repr, DecidableEq, Inhabited

namespace HostObject

def field? (h : HostObject) (name : String) : Option Value :=
  (h.fields.find? fun f => f.1 = name).map (·.2)

def assign (h : HostObject) (name : String) (v : Value) : HostObject :=
  { h with fields := h.fields.map fun f => if f.1 = name then (name, v) else f }

end HostObject

/-- Why a host could not be injected. -/
inductive InjectError
  | hostMismatch (binder expected : String)
  | missingSlot (binder : String) (slot : Int32)
  | typeMismatch (binder : String) (slot : Int32) (expected : ValueType)
  deriving Repr, DecidableEq, Inhabited

namespace InjectError

def message : InjectError → String
  | hostMismatch binder expected =>
    "binder `" ++ binder ++ "` was invoked with a host that is not `" ++ expected ++ "`"
  | missingSlot binder slot =>
    "binder `" ++ binder ++ "`: value source has no value for slot " ++ toString slot.toInt
  | typeMismatch binder slot expected =>
    "binder `" ++ binder ++ "`: value for slot " ++ toString slot.toInt ++ " is not a `"
      ++ expected.name ++ "`"

end InjectError

/-- The assignment of a field from a slot. -/
structure Assignment where
  slot : Int32
  field : String
  type : ValueType
  deriving Repr, DecidableEq, Inhabited

structure Binder where
  name : String
  /-- The version of the contract the binder was made for. -/
  version : Nat
  /-- The host type that the binder says it is for. -/
  host : HostType
  /-- The host type that the binder takes. -/
  expects : HostType := host
  assignments : List Assignment := []
  deriving Repr, DecidableEq, Inhabited

/-- The value for a slot, which must have the type of the field it is for. -/
def fetch (source : ValueSource) (slot : Int32) (type : ValueType) (binder : String) :
    Except InjectError Value :=
  match source slot with
  | none => .error (.missingSlot binder slot)
  | some v => if v.type = type then .ok v else .error (.typeMismatch binder slot type)

/-- The host, if it has the type that a binder takes. -/
def narrowHost (h : HostObject) (expected : HostType) (binder : String) :
    Except InjectError HostObject :=
  if h.type = expected then .ok h else .error (.hostMismatch binder expected.name)

namespace Binder

def text (b : Binder) : String :=
  "Binder \x7b name: " ++ Text.Quoted.quote b.name ++ ", contract_version: " ++ toString b.version
    ++ ", .. \x7d"

/-- Runs assignments in order; stops at the first that fails. -/
def assignAll (binder : String) (source : ValueSource) :
    List Assignment → HostObject → HostObject × Except InjectError Unit
  | [], h => (h, .ok ())
  | a :: rest, h =>
    match fetch source a.slot a.type binder with
    | .error e => (h, .error e)
    | .ok v => assignAll binder source rest (h.assign a.field v)

/-- The host after an injection, and whether the injection went through. -/
def inject (b : Binder) (h : HostObject) (source : ValueSource) :
    HostObject × Except InjectError Unit :=
  match narrowHost h b.expects b.name with
  | .error e => (h, .error e)
  | .ok h => assignAll b.name source b.assignments h

end Binder

end SlotBinding
