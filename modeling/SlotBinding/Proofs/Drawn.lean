import Mathlib.Data.List.Basic
import SlotBinding.Proofs.Respects
import SlotBinding.Slot.Argument

/-!
# What readers draw from tokens

A reader of declarations keeps marks and names of what it reads. `Draws` says that it takes them out of the
tokens that it reads and keeps the marks in their order; there is one rule for each way to put readers
together.
-/

namespace SlotBinding

open Syntax (Attribute Expect Input SyntaxError Parser isName)

/-- The places of marks in the order of the source, and names in no order. -/
structure Drawn where
  marks : List Position := []
  names : List String := []

namespace Drawn

instance : Append Drawn := ⟨fun a b => ⟨a.marks ++ b.marks, a.names ++ b.names⟩⟩

instance : LE Drawn := ⟨fun a b => a.marks.Sublist b.marks ∧ a.names ⊆ b.names⟩

variable {a b c d : Drawn}

@[simp] theorem marks_append (a b : Drawn) : (a ++ b).marks = a.marks ++ b.marks := rfl

@[simp] theorem names_append (a b : Drawn) : (a ++ b).names = a.names ++ b.names := rfl

protected theorem le_refl (a : Drawn) : a ≤ a := ⟨.refl _, List.Subset.refl _⟩

protected theorem le_trans (first : a ≤ b) (second : b ≤ c) : a ≤ c :=
  ⟨first.1.trans second.1, List.Subset.trans first.2 second.2⟩

theorem nil_le (a : Drawn) : {} ≤ a := ⟨List.nil_sublist _, List.nil_subset _⟩

theorem append_le_append (first : a ≤ b) (second : c ≤ d) : a ++ c ≤ b ++ d :=
  ⟨first.1.append second.1, List.append_subset.mpr
    ⟨List.subset_append_of_subset_left _ first.2, List.subset_append_of_subset_right _ second.2⟩⟩

theorem append_assoc (a b c : Drawn) : a ++ b ++ c = a ++ (b ++ c) := by
  change Drawn.mk _ _ = Drawn.mk _ _
  simp

@[simp] theorem nil_append (a : Drawn) : {} ++ a = a := rfl

@[simp] theorem append_nil (a : Drawn) : a ++ {} = a := by
  change Drawn.mk _ _ = a
  simp

theorem names_front_le (names : List String) (a b : Drawn) :
    a ++ { names } ++ b ≤ { names } ++ (a ++ b) := by
  refine ⟨?_, fun name => ?_⟩
  · simp
  · simp only [names_append, List.mem_append]
    tauto

def ofAll {α : Type} (f : α → Drawn) : List α → Drawn
  | [] => {}
  | x :: rest => f x ++ ofAll f rest

theorem ofAll_append {α : Type} (f : α → Drawn) (xs ys : List α) :
    ofAll f (xs ++ ys) = ofAll f xs ++ ofAll f ys := by
  induction xs with
  | nil => rfl
  | cons x rest ih => rw [List.cons_append, ofAll, ih, ofAll, append_assoc]

theorem marks_ofAll {α : Type} (f : α → Drawn) (xs : List α) :
    (ofAll f xs).marks = xs.flatMap fun x => (f x).marks := by
  induction xs with
  | nil => rfl
  | cons x rest ih => rw [ofAll, marks_append, ih, List.flatMap_cons]

theorem names_ofAll {α : Type} (f : α → Drawn) (xs : List α) :
    (ofAll f xs).names = xs.flatMap fun x => (f x).names := by
  induction xs with
  | nil => rfl
  | cons x rest ih => rw [ofAll, names_append, ih, List.flatMap_cons]

end Drawn

namespace Token

def opensMark : List Token → Bool
  | .word _ w :: rest => w == markName && !(Expect.op "::").holds rest
  | _ => false

/-- Where a mark starts that stands at the front, about what follows or about what encloses it. -/
def markAt? : List Token → Option Position
  | .punct p '#' _ :: .group _ .bracket inner :: _
  | .punct p '#' _ :: .punct _ '!' _ :: .group _ .bracket inner :: _ =>
    if opensMark inner then some p else none
  | _ => none

/-- Whether the word can be the name of a declaration; a module can be named `try`. -/
def canName (word : String) : Bool := isName word || word == "try"

def drawn : Token → Drawn
  | .word _ w => { names := if canName w then [w] else [] }
  | .group _ _ inner => drawnAll inner
  | _ => {}
where
  /-- All marks and names in a list of trees. -/
  drawnAll : List Token → Drawn
    | [] => {}
    | t :: rest => { marks := (markAt? (t :: rest)).toList } ++ drawn t ++ drawnAll rest

export drawn (drawnAll)

theorem markAt?_append {ts : List Token} {p : Position} (more : List Token) (found : markAt? ts = some p) :
    markAt? (ts ++ more) = some p := by
  unfold markAt? at found
  split at found
  · simpa [markAt?] using found
  · simpa [markAt?] using found
  · cases found

theorem drawnAll_append (ts us : List Token) : drawnAll ts ++ drawnAll us ≤ drawnAll (ts ++ us) := by
  induction ts with
  | nil => exact Drawn.le_refl _
  | cons t rest ih =>
    have front : Drawn.mk (markAt? (t :: rest)).toList [] ≤
        Drawn.mk (markAt? (t :: rest ++ us)).toList [] := by
      cases found : markAt? (t :: rest) with
      | none => exact Drawn.nil_le _
      | some p =>
        rw [markAt?_append us found]
        exact Drawn.le_refl _
    rw [drawnAll, List.cons_append, drawnAll, Drawn.append_assoc]
    exact Drawn.append_le_append (Drawn.append_le_append front (Drawn.le_refl _)) ih

theorem drawnAll_left (ts us : List Token) : drawnAll ts ≤ drawnAll (ts ++ us) := by
  have both := drawnAll_append ts us
  have left : drawnAll ts ++ {} ≤ drawnAll ts ++ drawnAll us :=
    Drawn.append_le_append (Drawn.le_refl _) (Drawn.nil_le _)
  rw [Drawn.append_nil] at left
  exact Drawn.le_trans left both

end Token

/-! ### Readers that draw -/

namespace Syntax.Parser

open Token (drawnAll)

variable {α β : Type} {before : Drawn} {f : α → Drawn} {h : β → Drawn}

/-- What the reader gives was there before or is drawn from the tokens that are read, in this order. -/
def Draws (before : Drawn) (f : α → Drawn) (p : Parser α) : Prop :=
  ∀ s a s', p s = .ok (a, s') → ∃ ts, s.rest = ts ++ s'.rest ∧ f a ≤ before ++ drawnAll ts

theorem draws_of_gives {p : Parser α} [Advances p] (gives : Gives (fun a => f a ≤ before) p) :
    Draws before f p := by
  intro s a s' ran
  obtain ⟨ts, parts⟩ := suffix ran
  refine ⟨ts, parts.symm, Drawn.le_trans (gives s a s' ran) ?_⟩
  have left := Drawn.append_le_append (Drawn.le_refl before) (Drawn.nil_le (drawnAll ts))
  rwa [Drawn.append_nil] at left

theorem draws_pure {a : α} (had : f a ≤ before) : Draws before f (pure a : Parser α) :=
  draws_of_gives (gives_pure had)

theorem draws_of_fails {p : Parser α} (fails : ∀ s, ∃ e, p s = .error e) : Draws before f p := by
  intro s a s' ran
  obtain ⟨e, failed⟩ := fails s
  rw [failed] at ran
  cases ran

theorem draws_bind {p : Parser α} {k : α → Parser β} (first : Draws {} f p)
    (next : ∀ a, Draws (before ++ f a) h (k a)) : Draws before h (p >>= k) := by
  intro s b s' ran
  obtain ⟨a, m, read, ran⟩ := of_bind_ok ran
  obtain ⟨ts, parts, own⟩ := first s a m read
  obtain ⟨us, others, all⟩ := next a m b s' ran
  refine ⟨ts ++ us, by rw [parts, others, List.append_assoc], Drawn.le_trans all ?_⟩
  rw [Drawn.append_assoc]
  refine Drawn.append_le_append (Drawn.le_refl before) (Drawn.le_trans ?_ (Token.drawnAll_append ts us))
  exact Drawn.append_le_append own (Drawn.le_refl _)

theorem draws_behind (p : Parser α) {k : α → Parser β} [Advances p]
    (next : ∀ a, Draws before h (k a)) : Draws before h (p >>= k) := by
  refine draws_bind (f := fun _ => {}) (draws_of_gives fun _ _ _ _ => Drawn.nil_le _) fun a => ?_
  rw [Drawn.append_nil]
  exact next a

theorem draws_ite {c : Prop} [Decidable c] {p q : Parser α} (yes : Draws before f p)
    (no : Draws before f q) : Draws before f (if c then p else q) := by
  split
  · exact yes
  · exact no

/-- One reader or another, depending on what a third one says. -/
theorem draws_choice (p : Parser Bool) {q r : Parser α} [Advances p] (yes : Draws before f q)
    (no : Draws before f r) : Draws before f (do if ← p then q else r) :=
  draws_behind p fun _ => draws_ite yes no

theorem draws_when {c : Prop} [Decidable c] {p : Parser Unit} {next : Unit → Parser α} [Advances p]
    (after : ∀ u, Draws before f (next u)) : Draws before f (if c then p >>= next else next ()) :=
  draws_ite (draws_behind p after) (after ())

theorem drawnAll_group (start : Position) (d : Delimiter) (inner : List Token) :
    drawnAll [.group start d inner] = drawnAll inner := by
  change {} ++ drawnAll inner ++ {} = drawnAll inner
  rw [Drawn.append_nil, Drawn.nil_append]

theorem draws_inGroup {d : Delimiter} {p : Parser α} (inside : Draws {} f p) :
    Draws {} f (inGroup d p) := by
  intro s a s' ran
  obtain ⟨start, inner, t, front, read, -⟩ := of_inGroup_ok ran
  obtain ⟨ts, parts, own⟩ := inside _ a t read
  refine ⟨[.group start d inner], front, ?_⟩
  obtain rfl : inner = ts ++ t.rest := parts
  rw [drawnAll_group]
  exact Drawn.le_trans own (Token.drawnAll_left ts t.rest)

/-- In a group it does not matter where the reader ends that comes last. -/
theorem draws_inGroup_front {d : Delimiter} {p : Parser α} {k : α → Parser β} (front : Draws {} f p)
    (last : ∀ a, Gives (fun b => h b ≤ f a) (k a)) : Draws {} h (inGroup d (p >>= k)) := by
  intro s b s' ran
  obtain ⟨start, inner, t, group, read, -⟩ := of_inGroup_ok ran
  obtain ⟨a, m, first, ran⟩ := of_bind_ok read
  obtain ⟨ts, parts, own⟩ := front _ a m first
  refine ⟨[.group start d inner], group, ?_⟩
  obtain rfl : inner = ts ++ m.rest := parts
  rw [drawnAll_group]
  exact Drawn.le_trans (last a m b t ran) (Drawn.le_trans own (Token.drawnAll_left ts m.rest))

def drawnOption (f : α → Drawn) : Option α → Drawn
  | some a => f a
  | none => {}

theorem draws_collectAtMost {step : Parser (Option α)} (draws : Draws {} (drawnOption f) step) (n : Nat) :
    Draws {} (Drawn.ofAll f) (collectAtMost step n) := by
  induction n with
  | zero => exact draws_pure (Drawn.nil_le _)
  | succ n ih =>
    refine draws_bind draws fun found => ?_
    cases found with
    | none => exact draws_pure (Drawn.nil_le _)
    | some a => exact draws_bind ih fun rest => draws_pure (Drawn.le_refl _)

theorem draws_collect {step : Parser (Option α)} (draws : Draws {} (drawnOption f) step) :
    Draws {} (Drawn.ofAll f) (collect step) :=
  draws_behind _ fun _ => draws_collectAtMost draws _

theorem draws_untilEnd {p : Parser α} (draws : Draws {} f p) : Draws {} (Drawn.ofAll f) (untilEnd p) := by
  refine draws_collect (draws_choice _ (draws_pure (Drawn.nil_le _)) ?_)
  exact draws_bind draws fun a => draws_pure (Drawn.le_refl _)

theorem draws_commaTerminated {p : Parser α} (draws : Draws {} f p) :
    Draws {} (Drawn.ofAll f) (commaTerminated p) := by
  refine draws_untilEnd (draws_bind draws fun a => draws_behind _ fun ended => ?_)
  exact draws_ite (draws_behind _ fun _ => draws_pure (Drawn.le_refl _)) (draws_pure (Drawn.le_refl _))

end Syntax.Parser

end SlotBinding
