import SlotBinding.Token.Lexer

/-!
# Steps of a reading

A step of a reading goes past a piece of the text with the tokens that it stands for, or opens or closes a group. What
every step keeps is there at the end of the text (`exists_of_ofChars?`).
-/

namespace SlotBinding.Token

open Spelling (Piece)

namespace Reading

variable {r r' : Reading}

/-- The piece in front of the reading is one token. -/
inductive IsLeaf (r : Reading) : Piece → Token → Prop
  | literal {l : Literal} {p : Piece} (read : Spelling.literal r.chars = some (l, p)) :
      IsLeaf r p (.literal r.position l)
  | punct {c : Char} {s : Spacing} {rest : List Char} (read : Spelling.punct r.chars = some (c, s, rest)) :
      IsLeaf r ([c], rest) (.punct r.position c s)
  | word {p : Piece} (read : Spelling.word r.chars = some p) :
      IsLeaf r p (.word r.position (String.ofList p.1))

theorem of_leaf (read : r.leaf = some r') : ∃ p t, r.IsLeaf p t ∧ r' = r.past p [t] := by
  unfold leaf at read
  split at read
  · rename_i literal
    exact ⟨_, _, .literal literal, (Option.some.inj read).symm⟩
  · split at read
    · rename_i punct
      exact ⟨_, _, .punct punct, (Option.some.inj read).symm⟩
    · split at read
      · rename_i word
        exact ⟨_, _, .word word, (Option.some.inj read).symm⟩
      · cases read

/-- What one step can do. -/
inductive Step (r : Reading) : Reading → Prop
  | gap {p : Piece} : Step r (r.past p [])
  | doc {d : Spelling.DocComment} (found : Spelling.docComment r.chars = some d) :
      Step r (r.past d.piece (d.tokens r.position))
  | broken {p : Piece} : Step r (r.past p [.literal r.position ⟨.other, String.ofList brokenExpression⟩])
  | enter (d : Delimiter) (c : Char) (rest : List Char) : Step r (r.enter d c rest)
  | leave {g : OpenGroup} {outer : List OpenGroup} (opened : r.groups = g :: outer) (c : Char) (rest : List Char) :
      Step r ⟨rest, r.position.next c, outer, .group g.start g.delimiter r.tokens.reverse :: g.before⟩
  | leaf {p : Piece} {t : Token} (own : r.IsLeaf p t) : Step r (r.past p [t])

theorem of_leave {d : Delimiter} {c : Char} {rest : List Char} (left : r.leave d c rest = some r') : r.Step r' := by
  unfold leave at left
  split at left
  · rename_i opened
    split at left
    · rename_i same
      subst same
      cases left
      exact .leave opened c rest
    · cases left
  · cases left

theorem of_step {c : Char} {rest : List Char} (read : r.step c rest = some r') : r.Step r' := by
  unfold step at read
  split at read
  · cases read
    exact .gap
  · split at read
    · rename_i doc
      cases read
      exact .doc doc
    · split at read
      · cases read
        exact .broken
      · split at read
        · cases read
          exact .enter _ c rest
        · exact of_leave read
        · obtain ⟨p, t, own, rfl⟩ := of_leaf read
          exact .leaf own

/-- Every step keeps the property. -/
def Keeps (I : Reading → Prop) : Prop :=
  ∀ r r' c rest, I r → r.chars = c :: rest → r.step c rest = some r' → I r'

/-- What a reading starts with and every step keeps is there at the end of the text. -/
theorem exists_of_run {I : Reading → Prop} {ts : List Token} (keeps : Keeps I) {n : Nat} (start : I r)
    (read : run n r = some ts) : ∃ r', I r' ∧ r'.chars = [] ∧ r'.groups = [] ∧ ts = r'.tokens.reverse := by
  induction n generalizing r with
  | zero => cases read
  | succ n ih =>
    rw [run] at read
    split at read
    · rename_i chars
      split at read
      · rename_i closed
        cases read
        exact ⟨r, start, chars, List.isEmpty_iff.mp closed, rfl⟩
      · cases read
    · rename_i c rest chars
      split at read
      · rename_i next step
        exact ih (keeps r next c rest start chars step) read
      · cases read

end Reading

theorem exists_of_ofChars? {I : Reading → Prop} {cs : List Char} {ts : List Token} (keeps : Reading.Keeps I)
    (start : ∀ p cs, I ⟨cs, p, [], []⟩) (read : ofChars? cs = some ts) :
    ∃ r, I r ∧ r.chars = [] ∧ r.groups = [] ∧ ts = r.tokens.reverse := by
  unfold ofChars? at read
  split at read
  · exact Reading.exists_of_run keeps (start _ _) read
  · exact Reading.exists_of_run keeps (start _ _) read

end SlotBinding.Token
