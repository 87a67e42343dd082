import SlotBinding.Diagnostic
import SlotBinding.Site.Basic

/-!
# Validation of sites

A site is valid if it is a field with a slot number, and the field, its struct and the modules around
the struct can be named from the crate root, and the struct has no parameters.
-/

namespace SlotBinding

structure BoundField where
  member : Member
  type : List Token
  deriving Inhabited

namespace BoundField

def name (f : BoundField) : String := f.member.text

end BoundField

structure ValidSite where
  host : Host
  slot : Int32
  field : BoundField
  location : Location
  deriving Inhabited

/-- Why a site is not valid. -/
inductive Rejection
  | notAField (kind : ElementKind) (name : String)
  | malformedSlot (member : Member) (host : Host) (reason : String)
  | privateField (member : Member) (host : Host)
  | privateHost (host : Host)
  | sealedModule (host : Host) (module : String)
  | genericHost (host : Host)

namespace Rejection

def message : Rejection → String
  | notAField kind name =>
    "`#[bind]` must be declared on a struct field, found " ++ kind.label ++ " `" ++ name ++ "`"
  | malformedSlot member host reason =>
    "`#[bind]` on field `" ++ member.text ++ "` of `" ++ host.name
      ++ "` expects one integer slot id: " ++ reason
  | privateField member host =>
    "field `" ++ member.text ++ "` of `" ++ host.name
      ++ "` must not be private; declare it `pub(crate)` or wider"
  | privateHost host =>
    "host `" ++ host.qualifiedName
      ++ "` must be visible from the crate root; declare it `pub(crate)` or wider"
  | sealedModule host module =>
    "host `" ++ host.qualifiedName ++ "` sits in private module `" ++ module
      ++ "`; declare the module `pub(crate)` or wider"
  | genericHost host => "host `" ++ host.qualifiedName ++ "` must not be generic"

def diagnostic (r : Rejection) (location : Location) : Diagnostic :=
  .error .invalidSite (some location) r.message

end Rejection

namespace Site

/-- The valid form of a site, or the first reason against it. -/
def validate (s : Site) : Except Rejection ValidSite :=
  match s.element with
  | .other kind name => .error (.notAField kind name)
  | .field host member type access =>
    match s.slot with
    | .malformed reason => .error (.malformedSlot member host reason)
    | .id slot =>
      if access = .private then .error (.privateField member host)
      else if host.access = .private && !host.atCrateRoot then .error (.privateHost host)
      else
        match host.sealedModule with
        | some module => .error (.sealedModule host module)
        | none =>
          if host.generic then .error (.genericHost host)
          else .ok { host, slot, field := { member, type }, location := s.location }

def rejection? (s : Site) : Option Diagnostic :=
  match s.validate with
  | .ok _ => none
  | .error r => some (r.diagnostic s.location)

def valid? (s : Site) : Option ValidSite := s.validate.toOption

end Site

end SlotBinding
