import SlotBinding.Config.Environment
import SlotBinding.Grammar.Recursion
import SlotBinding.Text.Trim

/-!
# The configuration of a run
-/

namespace SlotBinding

/-- A failure that stops a build step outright. -/
inductive BuildError
  | invalidVariable (name value reason : String)
  /-- The run reported so many errors. -/
  | failed (errors : Nat)
  | missingVariable (name : String)
  | missingCrateRoot (dir : String)
  | runtimePath (path : String)
  deriving Repr, DecidableEq, Inhabited

namespace BuildError

def message : BuildError → String
  | invalidVariable name value reason =>
    "environment variable `" ++ name ++ "` has invalid value `" ++ value ++ "`: " ++ reason
  | failed n => "binder generation reported " ++ toString n ++ " error(s)"
  | missingVariable name => "environment variable `" ++ name ++ "` is not set"
  | missingCrateRoot dir =>
    "no crate root found under `" ++ dir ++ "` (expected src/lib.rs or src/main.rs)"
  | runtimePath path => "invalid runtime crate path `" ++ path ++ "`"

end BuildError

/-- What happens when a host declares a slot again. -/
inductive DuplicatePolicy
  /-- The later field replaces the earlier one, with a warning. -/
  | warn
  /-- The earlier field stays, with an error. -/
  | deny
  deriving Repr, DecidableEq, Inhabited

namespace DuplicatePolicy

def ofText (s : String) : Except String DuplicatePolicy :=
  let name := Text.lowerAscii (Text.trim s)
  if name = "warn" then .ok warn
  else if name = "deny" then .ok deny
  else .error ("expected `warn` or `deny`, found `" ++ name ++ "`")

end DuplicatePolicy

/-! ### Configurations -/

namespace Variable

def packageName : String := "CARGO_PKG_NAME"

def crateName : String := "VIEWBIND_CRATE_NAME"

def runtimeCrate : String := "VIEWBIND_CRATE"

def duplicateSlots : String := "VIEWBIND_DUPLICATE_SLOTS"

def failOnError : String := "VIEWBIND_FAIL_ON_ERROR"

def manifestDir : String := "CARGO_MANIFEST_DIR"

def outDir : String := "OUT_DIR"

def configuration : List String :=
  [packageName, crateName, runtimeCrate, duplicateSlots, failOnError]

end Variable

/-- The runtime crate that generated source refers to if nothing else is said. -/
def defaultRuntimePath : String := "::viewbind"

/-- The tokens of a path, in one text, where the text is one. -/
def runtimeTokens? (path : String) : Option String :=
  match Grammar.readText (fun g => Grammar.path g false) (Text.trim path) with
  | .ok (_, ts) => some (Token.textAll ts)
  | .error _ => none

structure Config where
  crateName : String
  runtimePath : String := defaultRuntimePath
  duplicateSlots : DuplicatePolicy := .warn
  /-- Whether errors fail the build. -/
  failOnError : Bool := true
  deriving Repr, DecidableEq, Inhabited

namespace Config

def ofCrate (name : String) : Config :=
  { crateName := Text.replaceChar '-' '_' (Text.trim name) }

def runtimeTokens (c : Config) : Except BuildError String :=
  match runtimeTokens? c.runtimePath with
  | some text => .ok text
  | none => .error (.runtimePath c.runtimePath)

/-- The value of a variable without blanks at its ends; a blank one counts as not set. -/
def setting? (e : Environment) (name : String) : Option String :=
  ((e.get? name).map Text.trim).filter (· ≠ "")

/-- The truth value that a text names. -/
def truth? (s : String) : Option Bool :=
  let name := Text.lowerAscii s
  if ["1", "true", "yes"].contains name then some true
  else if ["0", "false", "no"].contains name then some false
  else none

def withRuntimePath (c : Config) (path : Option String) : Config :=
  { c with runtimePath := path.getD c.runtimePath }

def withDuplicateSlots (c : Config) : Option String → Except BuildError Config
  | none => .ok c
  | some value =>
    match DuplicatePolicy.ofText value with
    | .ok policy => .ok { c with duplicateSlots := policy }
    | .error reason => .error (.invalidVariable Variable.duplicateSlots value reason)

def withFailOnError (c : Config) : Option String → Except BuildError Config
  | none => .ok c
  | some value =>
    match truth? value with
    | some b => .ok { c with failOnError := b }
    | none => .error (.invalidVariable Variable.failOnError value "expected `true` or `false`")

/-- The name of the crate; the variable for it comes before that of the package. -/
def crateNameOf (e : Environment) : Except BuildError String :=
  match (e.get? Variable.crateName).or (e.get? Variable.packageName) with
  | some name => .ok name
  | none => .error (.missingVariable Variable.packageName)

def ofEnvironment (e : Environment) : Except BuildError Config := do
  let name ← crateNameOf e
  let c := (ofCrate name).withRuntimePath (setting? e Variable.runtimeCrate)
  let c ← c.withDuplicateSlots (setting? e Variable.duplicateSlots)
  let c ← c.withFailOnError (setting? e Variable.failOnError)
  let _ ← c.runtimeTokens
  return c

end Config

end SlotBinding
