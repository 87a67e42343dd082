import SlotBinding.Syntax.Item

/-!
# Access from the crate root

How a declaration can be seen from the root of its crate, by its visibility and by how many modules
lie above it.
-/

namespace SlotBinding

open Syntax (ModPath Visibility)

/-- What the root of a crate can see of a declaration. -/
inductive Access
  /-- Nothing. -/
  | «private»
  /-- The root can, other crates cannot. -/
  | restricted
  | «public»
  deriving Repr, DecidableEq, Inhabited

namespace Access

/-- Whether the module that a path names, from a module so many levels below the root, holds the
root. -/
def coversRoot (path : ModPath) (depth : Nat) : Bool :=
  !path.rooted
    && (path.segments == ["crate"]
      || (!path.segments.isEmpty && path.segments.all (· == "super") && depth ≤ path.segments.length))

/-- The access to what is declared with a visibility in a module so many levels below the root. -/
def ofVisibility (v : Visibility) (depth : Nat) : Access :=
  match v with
  | .public => .public
  | .restricted path => if coversRoot path depth then .restricted else .private
  | .inherited => .private

end Access

end SlotBinding
