import SlotBinding.Proofs.Drawn
import SlotBinding.Proofs.GrammarRespects

/-!
# Marks that readers of attributes draw

The readers of attributes give a mark only where the tokens of a mark stand, at their place.
-/

namespace SlotBinding

open Syntax (Attribute Expect Grammar Input ModPath Parser isName of_captured_ok of_inGroup_ok)
open Syntax.Parser
open Token (drawnAll opensMark)

/-! ### Words, operators and paths -/

namespace Syntax.Parser

theorem of_op?_ok {text : String} {s s' : Input} {b : Bool} (ran : op? text s = .ok (b, s')) :
    b = (Expect.op text).holds s.rest ∧
      if b then afterOperator text.toList s.rest = some s'.rest else s' = s := by
  obtain ⟨there, m, asked, ran⟩ := of_bind_ok ran
  have same : peek (.op text) s = .ok ((Expect.op text).holds s.rest, s) := rfl
  cases asked.symm.trans same
  cases holds : (Expect.op text).holds s.rest with
  | false =>
    rw [holds] at ran
    cases ran
    exact ⟨rfl, rfl⟩
  | true =>
    rw [holds] at ran
    obtain ⟨_, n, read, ran⟩ := of_bind_ok ran
    cases ran
    obtain ⟨_, _, got, read⟩ := of_bind_ok read
    cases got
    refine ⟨rfl, ?_⟩
    cases found : afterOperator text.toList s.rest with
    | none =>
      rw [found] at read
      cases read
    | some rest =>
      rw [found] at read
      cases read
      rfl

theorem of_op_ok {text : String} {s s' : Input} (ran : op text s = .ok ((), s')) :
    afterOperator text.toList s.rest = some s'.rest := by
  obtain ⟨_, _, got, ran⟩ := of_bind_ok ran
  cases got
  cases found : afterOperator text.toList s.rest with
  | none =>
    rw [found] at ran
    cases ran
  | some rest =>
    rw [found] at ran
    cases ran
    rfl

theorem eq_of_afterOperator {c : Char} {ts rest : List Token} (found : afterOperator [c] ts = some rest) :
    ∃ p spacing, ts = .punct p c spacing :: rest := by
  cases ts with
  | nil => cases found
  | cons t more =>
    cases t with
    | punct p d spacing =>
      by_cases matching : (c == d && d != '\'') = true
      · rw [afterOperator, if_pos matching] at found
        obtain rfl : c = d := by
          simp only [Bool.and_eq_true, beq_iff_eq] at matching
          exact matching.1
        exact ⟨p, spacing, by rw [Option.some.inj found]⟩
      · rw [afterOperator, if_neg matching] at found
        cases found
    | word | literal | group => simp [afterOperator] at found

theorem of_word?_false {text : String} {s s' : Input} (ran : word? text s = .ok (false, s')) : s' = s := by
  obtain ⟨there, m, asked, ran⟩ := of_bind_ok ran
  have same : peek (.word text) s = .ok ((Expect.word text).holds s.rest, s) := rfl
  cases asked.symm.trans same
  cases holds : (Expect.word text).holds s.rest with
  | false =>
    rw [holds] at ran
    cases ran
    rfl
  | true =>
    rw [holds] at ran
    obtain ⟨_, _, _, ran⟩ := of_bind_ok ran
    cases ran

theorem of_anyWord_ok {s s' : Input} {r : Position × String} (ran : anyWord s = .ok (r, s')) :
    s.rest = .word r.1 r.2 :: s'.rest := by
  obtain ⟨_, _, got, ran⟩ := of_bind_ok ran
  cases got
  cases front : s.rest with
  | nil =>
    rw [front] at ran
    cases ran
  | cons t rest =>
    rw [front] at ran
    cases t with
    | word p w =>
      cases ran
      rfl
    | punct | literal | group => cases ran

theorem of_name_ok {s s' : Input} {r : Position × String} (ran : name s = .ok (r, s')) :
    s.rest = .word r.1 r.2 :: s'.rest ∧ isName r.2 = true := by
  obtain ⟨_, _, got, ran⟩ := of_bind_ok ran
  cases got
  cases front : s.rest with
  | nil =>
    rw [front] at ran
    cases ran
  | cons t rest =>
    rw [front] at ran
    cases t with
    | word p w =>
      dsimp only at ran
      by_cases own : isName w = true
      · rw [if_pos own] at ran
        have read := of_anyWord_ok ran
        rw [front] at read
        cases read
        exact ⟨rfl, own⟩
      · rw [if_neg own] at ran
        cases ran
    | punct | literal | group => cases ran

theorem draws_name : Draws {} (fun r => { names := [r.2] }) name := by
  intro s r s' ran
  obtain ⟨front, own⟩ := of_name_ok ran
  refine ⟨[.word r.1 r.2], front, List.nil_sublist _, ?_⟩
  simp [drawnAll, Token.drawn, Token.canName, own]

end Syntax.Parser

namespace Grammar

theorem of_modSegments_ok {n : Nat} {s s' : Input} {ws : List String}
    (ran : modSegments n s = .ok (ws, s')) :
    ∃ p w more rest, ws = w :: more ∧ s.rest = .word p w :: rest ∧
      (more = [] → (Expect.op "::").holds rest = false) := by
  induction n generalizing s ws with
  | zero => cases ran
  | succ n ih =>
    obtain ⟨follows, _, asked, ran⟩ := of_bind_ok ran
    cases asked
    split at ran
    · obtain ⟨⟨p, w⟩, m, read, ran⟩ := of_bind_ok ran
      obtain ⟨b, m', separated, ran⟩ := of_bind_ok ran
      have front := of_anyWord_ok read
      obtain ⟨follows, _⟩ := of_op?_ok separated
      cases b with
      | false =>
        cases ran
        exact ⟨p, w, [], m.rest, rfl, front, fun _ => follows.symm⟩
      | true =>
        obtain ⟨others, _, behind, ran⟩ := of_bind_ok ran
        cases ran
        obtain ⟨_, v, more, _, rfl, _, _⟩ := ih behind
        exact ⟨p, w, v :: more, m.rest, rfl, front, by simp⟩
    · cases ran

theorem opensMark_of_modPath {s s' : Input} {path : ModPath} (ran : modPath s = .ok (path, s'))
    (mark : path.isWord markName = true) : opensMark s.rest = true := by
  obtain ⟨rooted, m, start, ran⟩ := of_bind_ok ran
  obtain ⟨b, _, asked, ran⟩ := of_bind_ok ran
  cases asked
  have plain : ∀ ws, path = ⟨rooted, ws⟩ → m = s ∧ ws = [markName] := by
    rintro ws rfl
    simp only [ModPath.isWord, Bool.and_eq_true, Bool.not_eq_true', beq_iff_eq] at mark
    obtain ⟨rfl, rfl⟩ := mark
    exact ⟨(of_op?_ok start).2, rfl⟩
  split at ran
  · obtain ⟨_, _, got, ran⟩ := of_bind_ok ran
    cases got
    obtain ⟨ws, _, segments, ran⟩ := of_bind_ok ran
    cases ran
    obtain ⟨rfl, rfl⟩ := plain ws rfl
    obtain ⟨p, w, more, rest, same, front, last⟩ := of_modSegments_ok segments
    cases same
    rw [front, opensMark, last rfl]
    rfl
  · rename_i nowhere
    obtain ⟨r, _, read, ran⟩ := of_bind_ok ran
    cases ran
    obtain ⟨rfl, same⟩ := plain [r.2] rfl
    obtain ⟨front, own⟩ := of_name_ok read
    exact absurd (by simp [front, Expect.holds, own]) nowhere

/-! ### Attributes -/

variable {g : Grammar}

theorem opensMark_of_attributeInside {s s' : Input} {r : ModPath × Syntax.AttributeArgument}
    (ran : attributeInside g s = .ok (r, s')) (mark : r.1.isWord markName = true) :
    opensMark s.rest = true := by
  obtain ⟨marked, m, first, behind⟩ := of_bind_ok ran
  -- Nothing behind the path changes it.
  have kept (path : ModPath) : Gives (fun r : ModPath × Syntax.AttributeArgument => r.1 = path) (do
      if ← peekAny [.group .paren, .group .bracket, .group .brace] then
        let r ← rawGroup
        return (path, .list r.1 r.2)
      else if (← peek (.op "=")) && !(← peekAny [.op "==", .op "=>"]) then
        op "="
        return (path, .value (← attributeValue g))
      else return (path, .none)) := by
    refine gives_after fun _ => gives_ite (gives_after fun _ => gives_pure rfl) ?_
    refine gives_after fun _ => gives_after fun _ => gives_ite ?_ (gives_pure rfl)
    exact gives_after fun _ => gives_after fun _ => gives_pure rfl
  cases marked with
  | true =>
    obtain ⟨path, n, chosen, last⟩ := of_bind_ok behind
    cases chosen
    rw [kept _ _ _ _ last] at mark
    exact absurd mark (by decide)
  | false =>
    obtain rfl := of_word?_false first
    obtain ⟨path, n, read, last⟩ := of_bind_ok behind
    rw [kept path _ _ _ last] at mark
    exact opensMark_of_modPath read mark

theorem of_attributeBody_ok {start : Position} {s s' : Input} {a : Attribute}
    (ran : attributeBody g start s = .ok (a, s')) :
    a.start = start ∧ ∃ p inner, s.rest = .group p .bracket inner :: s'.rest ∧
      (a.isMark = true → opensMark inner = true) := by
  obtain ⟨r, m, inside, ran⟩ := of_bind_ok ran
  obtain ⟨p, inner, _, front, read, -⟩ := of_inGroup_ok inside
  obtain ⟨_, read, -⟩ := of_captured_ok read
  cases ran
  exact ⟨rfl, p, inner, front, opensMark_of_attributeInside read⟩

end Grammar

namespace Syntax.Attribute

def drawn (a : Attribute) : Drawn := { marks := if a.isMark then [a.start] else [] }

theorem drawn_le {a : Attribute} {p : Position} {inner : List Token} {ts : List Token} (start : a.start = p)
    (marks : a.isMark = true → opensMark inner = true)
    (front : Token.markAt? ts = if opensMark inner then some p else none) : a.drawn ≤ drawnAll ts := by
  cases ts with
  | nil =>
    have unmarked : a.isMark ≠ true := by
      intro mark
      rw [marks mark] at front
      cases front
    simpa [drawn, unmarked] using Drawn.nil_le _
  | cons t rest =>
    by_cases mark : a.isMark = true
    · rw [drawnAll, front, marks mark]
      refine ⟨?_, List.nil_subset _⟩
      simp [drawn, mark, start]
    · simpa [drawn, mark] using Drawn.nil_le _

end Syntax.Attribute

namespace Grammar

variable {g : Grammar}

abbrev attributesDrawn (as : List Attribute) : Drawn := Drawn.ofAll Attribute.drawn as

theorem draws_outerAttributes : Draws {} attributesDrawn (outerAttributes g) := by
  refine draws_collect fun s found s' ran => ?_
  obtain ⟨start, _, looked, ran⟩ := of_bind_ok ran
  cases looked
  obtain ⟨marked, m, first, ran⟩ := of_bind_ok ran
  cases marked with
  | false =>
    obtain rfl := (of_op?_ok first).2
    cases ran
    exact ⟨[], rfl, Drawn.nil_le _⟩
  | true =>
    obtain ⟨a, n, body, ran⟩ := of_bind_ok ran
    cases ran
    obtain ⟨p, spacing, sign⟩ := eq_of_afterOperator (of_op?_ok first).2
    obtain ⟨place, q, inner, group, marks⟩ := of_attributeBody_ok body
    refine ⟨[.punct p '#' spacing, .group q .bracket inner], by rw [sign, group]; rfl, ?_⟩
    refine Attribute.drawn_le (place.trans ?_) marks rfl
    rw [sign]
    rfl

theorem draws_innerAttributes : Draws {} attributesDrawn (innerAttributes g) := by
  refine draws_collect fun s found s' ran => ?_
  obtain ⟨start, _, looked, ran⟩ := of_bind_ok ran
  cases looked
  obtain ⟨_, _, asked, ran⟩ := of_bind_ok ran
  cases asked
  obtain ⟨_, _, asked, ran⟩ := of_bind_ok ran
  cases asked
  split at ran
  · obtain ⟨_, m, first, ran⟩ := of_bind_ok ran
    obtain ⟨_, m', second, ran⟩ := of_bind_ok ran
    obtain ⟨a, n, body, ran⟩ := of_bind_ok ran
    cases ran
    obtain ⟨p, spacing, sign⟩ := eq_of_afterOperator (of_op_ok first)
    obtain ⟨p', spacing', bang⟩ := eq_of_afterOperator (of_op_ok second)
    obtain ⟨place, q, inner, group, marks⟩ := of_attributeBody_ok body
    refine ⟨[.punct p '#' spacing, .punct p' '!' spacing', .group q .bracket inner],
      by rw [sign, bang, group]; rfl, ?_⟩
    refine Attribute.drawn_le (place.trans ?_) marks rfl
    rw [sign]
    rfl
  · cases ran
    exact ⟨[], rfl, Drawn.nil_le _⟩

theorem draws_attributedBlock : Draws {} attributesDrawn (attributedBlock g) := by
  refine draws_inGroup_front draws_innerAttributes fun as => gives_after fun _ => ?_
  exact gives_pure (Drawn.le_refl _)

end Grammar

end SlotBinding
