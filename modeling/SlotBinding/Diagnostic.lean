import SlotBinding.Site.Location

/-!
# Diagnostics
-/

namespace SlotBinding

inductive Severity
  | warning
  | error
  deriving Repr, DecidableEq, Inhabited

namespace Severity

def text : Severity → String
  | warning => "warning"
  | error => "error"

def max : Severity → Severity → Severity
  | warning, s => s
  | error, _ => error

end Severity

inductive DiagnosticKind
  | artifactWriteFailure
  | duplicateSlot
  | invalidSite
  | sourceUnavailable
  deriving Repr, DecidableEq, Inhabited

/-- A finding about one place, or about the whole run. -/
structure Diagnostic where
  severity : Severity
  kind : DiagnosticKind
  location : Option Location
  message : String
  deriving Repr, DecidableEq, Inhabited

namespace Diagnostic

def error (kind : DiagnosticKind) (location : Option Location) (message : String) : Diagnostic :=
  ⟨.error, kind, location, message⟩

def warning (kind : DiagnosticKind) (location : Option Location) (message : String) : Diagnostic :=
  ⟨.warning, kind, location, message⟩

def isError (d : Diagnostic) : Bool := d.severity = .error

def text (d : Diagnostic) : String :=
  let body := d.severity.text ++ ": " ++ d.message
  match d.location with
  | some l => l.text ++ ": " ++ body
  | none => body

def severest? (ds : List Diagnostic) : Option Severity :=
  match ds with
  | [] => none
  | d :: rest => some (rest.foldl (fun s d => s.max d.severity) d.severity)

end Diagnostic

end SlotBinding
