/-!
# Maps in insertion order

A key that is inserted again gets the new value and keeps its place.
-/

namespace SlotBinding

/-- A map whose entries stand in the order in which their keys were first inserted. -/
structure InsertionMap (κ : Type u) (α : Type v) where
  entries : List (κ × α) := []
  deriving Repr, DecidableEq, Inhabited

namespace InsertionMap

variable {κ : Type u} {α : Type v} [DecidableEq κ]

/-- The entries with the first one of the key replaced, or a new one at the end. -/
def put (k : κ) (a : α) : List (κ × α) → List (κ × α)
  | [] => [(k, a)]
  | e :: rest => if e.1 = k then (k, a) :: rest else e :: put k a rest

def get? (m : InsertionMap κ α) (k : κ) : Option α :=
  (m.entries.find? fun e => e.1 = k).map (·.2)

def contains (m : InsertionMap κ α) (k : κ) : Bool := (m.get? k).isSome

def insert (m : InsertionMap κ α) (k : κ) (a : α) : InsertionMap κ α := ⟨put k a m.entries⟩

def erase (m : InsertionMap κ α) (k : κ) : InsertionMap κ α := ⟨m.entries.filter fun e => e.1 ≠ k⟩

/-- The value that gives way to a new one in the first entry of the key, and the entries after that. Where
the key is missing, nothing gives way and a new entry stands at the end. -/
def exchange (k : κ) (a : α) : List (κ × α) → Option α × List (κ × α)
  | [] => (none, [(k, a)])
  | e :: rest =>
    if e.1 = k then (some e.2, (e.1, a) :: rest)
    else
      let (old, others) := exchange k a rest
      (old, e :: others)

/-- The value that is replaced by an insertion, and the map after it. -/
def replace (m : InsertionMap κ α) (k : κ) (a : α) : Option α × InsertionMap κ α :=
  let (old, entries) := exchange k a m.entries
  (old, ⟨entries⟩)

def toList (m : InsertionMap κ α) : List (κ × α) := m.entries

def keys (m : InsertionMap κ α) : List κ := m.entries.map (·.1)

def size (m : InsertionMap κ α) : Nat := m.entries.length

def isEmpty (m : InsertionMap κ α) : Bool := m.entries.isEmpty

end InsertionMap

end SlotBinding
