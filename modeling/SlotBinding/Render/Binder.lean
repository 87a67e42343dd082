import SlotBinding.Model.Host
import SlotBinding.Syntax.Item

/-!
# The source of one binder

The generated source is a list of phrases with one space between them.
-/

namespace SlotBinding

/-- The version of the contract between generated binders and the code that calls them. -/
def contractVersion : Nat := 1

/-- Phrases with one space between them. -/
def phrases (ps : List String) : String := " ".intercalate ps

/-- What writes generated source: the path of the crate that the source refers to. -/
structure Renderer where
  runtime : String
  deriving Repr, DecidableEq, Inhabited

namespace Renderer

def conditions (m : HostModel) : List String := m.cfg.map (·.text)

def docLine (line : String) : String := "# [doc = " ++ Text.Quoted.literal line ++ "]"

def slotDoc (slot : Int32) (f : BoundField) : String :=
  docLine
    (" - slot " ++ toString slot.toInt ++ ": `" ++ f.name ++ ": " ++ Token.textAll f.type ++ "`")

/-- The slot as a literal with the name of its type; the sign is a phrase of its own. -/
def slotLiteral (slot : Int32) : String :=
  (if slot.toInt < 0 then "- " else "") ++ toString slot.toInt.natAbs ++ "i32"

def statement (r : Renderer) (slot : Int32) (f : BoundField) : String :=
  phrases
    ["host", ".", f.name, "=", r.runtime, ":: __internal :: fetch (source ,", slotLiteral slot,
     ", Self :: NAME) ? ;"]

/-- The expression that narrows the host to its type. -/
def narrowing (r : Renderer) (typePath : String) : String :=
  phrases
    [r.runtime, ":: __internal :: downcast_host :: <", typePath, "> (host , Self :: NAME) ? ;"]

def body (r : Renderer) (m : HostModel) (typePath : String) : List String :=
  if m.bindings.isEmpty then ["let _ =", r.narrowing typePath, "let _ = source ;"]
  else "let host =" :: r.narrowing typePath :: m.bindings.toList.map fun b => r.statement b.1 b.2

def declaration (m : HostModel) (ident : String) : List String :=
  conditions m
    ++ [docLine (" Generated binder for `" ++ m.qualifiedName ++ "`.")]
    ++ m.bindings.toList.map (fun b => slotDoc b.1 b.2)
    ++ ["# [doc (hidden)] # [allow (non_camel_case_types)] pub struct", ident, ";"]

def nameConstant (m : HostModel) (ident : String) : List String :=
  conditions m
    ++ ["impl", ident, "\x7b pub const NAME : & str =", Text.Quoted.literal m.binderName, "; \x7d"]

def descriptions (typePath : String) : List String :=
  ["fn binder_name (& self) -> & 'static str \x7b Self :: NAME \x7d",
   "fn contract_version (& self) -> u32 \x7b", toString contractVersion ++ "u32", "\x7d",
   "fn host_type_id (& self) -> :: std :: any :: TypeId \x7b :: std :: any :: TypeId :: of :: <",
   typePath, "> () \x7d"]

def injection (r : Renderer) (m : HostModel) (typePath : String) : List String :=
  ["fn inject (& self , host : & mut dyn :: std :: any :: Any , source : & dyn", r.runtime,
   ":: ValueSource ,) -> :: std :: result :: Result < () ,", r.runtime, ":: InjectError > \x7b"]
    ++ r.body m typePath ++ ["Ok (()) \x7d"]

/-- The contract that the binder keeps. -/
def contract (r : Renderer) (m : HostModel) (ident typePath : String) : List String :=
  conditions m ++ ["impl", r.runtime, ":: Binder for", ident, "\x7b"] ++ descriptions typePath
    ++ r.injection m typePath ++ ["\x7d"]

/-- The source of the binder of a host. A host without an identifier is named before one without a
path. -/
def binder (r : Renderer) (m : HostModel) : Except NameFault String := do
  let ident ← m.binderIdent
  let typePath ← m.typePath
  return phrases (declaration m ident ++ nameConstant m ident ++ r.contract m ident typePath)

end Renderer

end SlotBinding
