import SlotBinding.Config.Basic
import SlotBinding.Scan.Basic

/-!
# The derived path of a host

`derivePath` gives the implementation that lets a struct say the path under which its binder is
registered.
-/

namespace SlotBinding

open Syntax Parser Grammar

inductive DerivedKind
  | struct
  | enum
  | union
  deriving Repr, DecidableEq, Inhabited

/-- What of a declaration a derived implementation repeats. -/
structure DeriveInput where
  kind : DerivedKind
  head : DeclHead
  /-- The conditions on the parameters. -/
  conditions : List Token

namespace DeriveInput

def read (g : Grammar) : Parser DeriveInput := do
  discard <| outerAttributes g
  discard visibility
  if ← word? "struct" then
    let head ← declHead g
    return { kind := .struct, head, conditions := (← structBody g).2 }
  else if ← word? "enum" then
    let head ← declHead g
    return { kind := .enum, head, conditions := (← enumBody g).2 }
  else if ← word? "union" then
    let head ← declHead g
    return { kind := .union, head, conditions := (← unionBody g).2 }
  else failExpected [.word "struct", .word "enum", .word "union"]

end DeriveInput

def derivedRuntime (e : Environment) : String :=
  ((e.get? Variable.runtimeCrate).bind runtimeTokens?).getD ":: viewbind"

def compileFault (message : String) : String :=
  ":: core :: compile_error ! \x7b " ++ Text.Quoted.literal message ++ " \x7d"

def hostImplementation (runtime : String) (d : DeriveInput) : String :=
  let parts :=
    ["impl", Token.textAll (angled (d.head.parameters.map (·.declared))), runtime,
     ":: BindHost for", d.head.name, Token.textAll (angled (d.head.parameters.map (·.used))),
     Token.textAll d.conditions,
     "\x7b const PATH : & 'static str = concat ! (module_path ! () , \"::\" ,",
     Text.Quoted.literal (plainName d.head.name) ++ ") ; \x7d"]
  " ".intercalate (parts.filter (· ≠ ""))

/-- What is derived for a declaration. -/
def derivePath (e : Environment) (ts : List Token) : String :=
  match readAll DeriveInput.read ts with
  | .error fault => compileFault fault.message
  | .ok (d, _) =>
    if d.kind = .struct then hostImplementation (derivedRuntime e) d
    else compileFault "Bind can only be derived for structs"

end SlotBinding
