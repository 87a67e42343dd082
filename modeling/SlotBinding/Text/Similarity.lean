/-!
# Similar names

The Jaro similarity of two texts with Winkler's bonus for a shared beginning, as an exact fraction.
-/

namespace SlotBinding.Text

/-- A fraction; a zero denominator stands for the value zero. -/
structure Fraction where
  num : Nat
  den : Nat
  deriving Repr, DecidableEq

def Fraction.exceeds (f : Fraction) (p q : Nat) : Bool :=
  p * f.den < q * f.num

namespace Similarity

/-- How far apart equal characters may stand and still count as a match. -/
def reach (a b : Nat) : Nat :=
  max a b / 2 - 1

/-- The first free position of `c` in `b` that is within `range` of position `i`. -/
def partner (range i : Nat) (c : Char) (b : List Char) (used : List Nat) : Option Nat :=
  (List.range b.length).find? fun j =>
    i ≤ j + range && j ≤ i + range && b[j]? == some c && !used.contains j

/-- The matched characters of `a` in order and the positions they match in `b`. -/
def matching (range : Nat) (b : List Char) : List Char → Nat → List Nat → List Char × List Nat
  | [], _, used => ([], used)
  | c :: rest, i, used =>
    match partner range i c b used with
    | some j =>
      let found := matching range b rest (i + 1) (j :: used)
      (c :: found.1, found.2)
    | none => matching range b rest (i + 1) used

/-- The characters of `b` at the used positions, in order. -/
def chosen (b : List Char) (used : List Nat) : List Char :=
  (List.range b.length).filterMap fun j => if used.contains j then b[j]? else none

def jaro (a b : List Char) : Fraction :=
  match a, b with
  | [], [] => ⟨1, 1⟩
  | _, _ =>
    let found := matching (reach a.length b.length) b a 0 []
    let m := found.1.length
    let t := ((found.1.zip (chosen b found.2)).countP fun p => p.1 != p.2) / 2
    ⟨m * m * b.length + m * m * a.length + (m - t) * a.length * b.length,
      3 * a.length * b.length * m⟩

def sharedBeginning (a b : List Char) : Nat :=
  ((a.take 4).zip b).takeWhile (fun p => p.1 == p.2) |>.length

/-- Pairs above seven tenths gain a tenth of the missing part for each shared first character. -/
def jaroWinkler (a b : List Char) : Fraction :=
  let sim := jaro a b
  if sim.exceeds 7 10 then
    ⟨10 * sim.num + sharedBeginning a b * (sim.den - sim.num), 10 * sim.den⟩
  else sim

end Similarity

/-- Names above eight tenths are taken for misspellings of each other. -/
def areSimilar (a b : String) : Bool :=
  (Similarity.jaroWinkler a.toList b.toList).exceeds 8 10

end SlotBinding.Text
