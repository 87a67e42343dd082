/-!
# Maps in the order of their keys
-/

namespace SlotBinding

/-- A map whose entries stand in increasing order of their keys. Texts are ordered by code points. -/
structure SortedMap (κ : Type u) (α : Type v) where
  entries : List (κ × α) := []
  deriving Repr, DecidableEq, Inhabited

namespace SortedMap

variable {κ : Type u} {α : Type v} [DecidableEq κ]

def get? (m : SortedMap κ α) (k : κ) : Option α :=
  (m.entries.find? fun e => e.1 = k).map (·.2)

def contains (m : SortedMap κ α) (k : κ) : Bool := (m.get? k).isSome

def erase (m : SortedMap κ α) (k : κ) : SortedMap κ α := ⟨m.entries.filter fun e => e.1 ≠ k⟩

def toList (m : SortedMap κ α) : List (κ × α) := m.entries

def keys (m : SortedMap κ α) : List κ := m.entries.map (·.1)

def values (m : SortedMap κ α) : List α := m.entries.map (·.2)

def size (m : SortedMap κ α) : Nat := m.entries.length

def isEmpty (m : SortedMap κ α) : Bool := m.entries.isEmpty

variable [LT κ] [DecidableLT κ]

def put (k : κ) (a : α) : List (κ × α) → List (κ × α)
  | [] => [(k, a)]
  | e :: rest =>
    if e.1 = k then (k, a) :: rest
    else if k < e.1 then (k, a) :: e :: rest
    else e :: put k a rest

def insert (m : SortedMap κ α) (k : κ) (a : α) : SortedMap κ α := ⟨put k a m.entries⟩

/-- The map of some pairs, of which the last one for a key counts. -/
def ofList (es : List (κ × α)) : SortedMap κ α := es.foldl (fun m e => m.insert e.1 e.2) {}

end SortedMap

end SlotBinding
