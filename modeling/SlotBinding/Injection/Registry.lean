import SlotBinding.Injection.Binder

/-!
# Registries and the search for a binder

A registry keeps the last binder registered under each name. A host's binder is looked up by the name
that follows from the host's path, and is refused if it was made for another contract or another host.
-/

namespace SlotBinding

abbrev Registry := SortedMap String Binder

namespace Registry

def register (r : Registry) (b : Binder) : Option Binder × Registry :=
  (r.get? b.name, r.insert b.name b)

def install (r : Registry) (table : List Binder) : Registry :=
  table.foldl (fun r b => (r.register b).2) r

def ofTable (table : List Binder) : Registry := install {} table

def text (r : Registry) : String :=
  "Registry \x7b binders: \x7b"
    ++ ", ".intercalate (r.toList.map fun e => Text.Quoted.quote e.1 ++ ": " ++ e.2.text)
    ++ "\x7d \x7d"

end Registry

/-- Why no usable binder was found for a host. -/
inductive LocateError
  | binderNotFound (expected : String)
  | contractMismatch (binder : String) (found : Nat)
  | hostMismatch (binder host : String)
  deriving Repr, DecidableEq, Inhabited

namespace LocateError

def message : LocateError → String
  | binderNotFound expected =>
    "can not find binder `" ++ expected ++ "`; was the viewbind build step run for this crate?"
  | contractMismatch binder found =>
    "binder `" ++ binder ++ "` was generated for contract version " ++ toString found
      ++ ", runtime expects " ++ toString contractVersion
  | hostMismatch binder host =>
    "binder `" ++ binder ++ "` is registered for a different host type than `" ++ host ++ "`"

end LocateError

namespace Registry

/-- The binder of a name, which must keep the current contract. -/
def locateByName (r : Registry) (name : String) : Except LocateError Binder :=
  match r.get? name with
  | none => .error (.binderNotFound name)
  | some b =>
    if b.version = contractVersion then .ok b else .error (.contractMismatch name b.version)

def locate (r : Registry) (h : HostType) : Except LocateError Binder :=
  match r.locateByName h.binderName with
  | .error e => .error e
  | .ok b => if b.host = h then .ok b else .error (.hostMismatch b.name h.name)

end Registry

/-- Why a host was not located and injected. -/
inductive BindingError
  | locate (error : LocateError)
  | inject (error : InjectError)
  deriving Repr, DecidableEq, Inhabited

namespace BindingError

def message : BindingError → String
  | locate e => e.message
  | inject e => e.message

end BindingError

namespace Registry

/-- Lets a binder, if there is one, inject a host. -/
def injectWith (found : Except LocateError Binder) (h : HostObject) (source : ValueSource) :
    HostObject × Except BindingError Unit :=
  match found with
  | .error e => (h, .error (.locate e))
  | .ok b =>
    let (h, result) := b.inject h source
    (h, result.mapError .inject)

def inject (r : Registry) (h : HostObject) (source : ValueSource) :
    HostObject × Except BindingError Unit :=
  injectWith (r.locate h.type) h source

def injectByName (r : Registry) (name : String) (h : HostObject) (source : ValueSource) :
    HostObject × Except BindingError Unit :=
  injectWith (r.locateByName name) h source

end Registry

end SlotBinding
