import SlotBinding.Proofs.DrawnItems
import SlotBinding.Proofs.Names
import SlotBinding.Proofs.TokenSteps
import SlotBinding.Scan.Basic

/-!
# The order of tokens

Reading a text moves a place from its front to its end, past one token after the other.
`ascending_of_sourceFile`: the marks of a parsed file stand in the order of their places.
-/

namespace SlotBinding

namespace Position

def Before (p q : Position) : Prop := p.line < q.line ∨ p.line = q.line ∧ p.column < q.column

variable {p q r : Position}

theorem before_trans (first : p.Before q) (second : q.Before r) : p.Before r := by
  unfold Before at *
  omega

theorem before_next (p : Position) (c : Char) : p.Before (p.next c) := by
  unfold next
  split
  · exact Or.inl (Nat.lt_succ_self _)
  · exact Or.inr ⟨rfl, Nat.lt_succ_self _⟩

theorem before_advance_of_before (cs : List Char) (before : q.Before p) : q.Before (p.advance cs) := by
  induction cs generalizing p with
  | nil => exact before
  | cons c rest ih => exact ih (before_trans before (before_next p c))

theorem before_advance (p : Position) {cs : List Char} (some' : cs ≠ []) : p.Before (p.advance cs) := by
  cases cs with
  | nil => exact absurd rfl some'
  | cons c rest => exact before_advance_of_before rest (before_next p c)

end Position

/-- The text is an identifier, perhaps with the mark of a raw one, which not every identifier can have. -/
def Spelled (w : String) : Prop :=
  Unicode.isWord w.toList = true ∨
    ∃ bare, w.toList = 'r' :: '#' :: bare ∧ Unicode.isWord bare = true ∧ bare ∉ Spelling.neverRaw

theorem plainName_of_isWord {s : String} (word : Unicode.isWord s.toList = true) : plainName s = s := by
  have unmarked := Identifier.behindMark?_of_isWord word
  unfold plainName
  split
  · rename_i rest marked
    simp [Identifier.behindMark?, marked] at unmarked
  · rfl

theorem Spelled.isWord_plainName {w : String} (spelled : Spelled w) :
    Unicode.isWord (plainName w).toList = true := by
  rcases spelled with word | ⟨bare, marked, word, -⟩
  · rwa [plainName_of_isWord word]
  · simpa [plainName, marked] using word

namespace Spelling

theorem isWord_of_bareWord {cs : List Char} {p : Piece} (read : bareWord cs = some p) :
    Unicode.isWord p.1 = true := by
  cases cs with
  | nil => cases read
  | cons c rest =>
    rw [bareWord] at read
    split at read
    · rename_i start
      cases read
      rw [Unicode.isWord, start, List.all_takeWhile]
      rfl
    · cases read

theorem spelled_of_word {cs : List Char} {p : Piece} (read : word cs = some p) :
    Spelled (String.ofList p.1) := by
  unfold word at read
  split at read
  · cases read
  · unfold anyWord at read
    split at read
    · obtain ⟨bare, inner, read⟩ := Option.bind_eq_some_iff.mp read
      split at read
      · cases read
      · rename_i allowed
        cases read
        refine Or.inr ⟨bare.1, by simp [Piece.after], isWord_of_bareWord inner, ?_⟩
        simpa using allowed
    · refine Or.inl ?_
      simpa using isWord_of_bareWord read

theorem front_of_anyDocComment {cs : List Char} {d : DocComment} (read : anyDocComment cs = some d) :
    d.piece.1 ≠ [] := by
  have block (inner : Bool) (c : Char) (front rest : List Char)
      (read : docBlock inner (c :: front) rest = some d) : d.piece.1 ≠ [] := by
    obtain ⟨p, _, rfl⟩ := Option.map_eq_some_iff.mp read
    simp [Piece.after]
  unfold anyDocComment at read
  split at read
  · cases read
    simp [docLine, Piece.after]
  · exact block _ _ _ _ read
  · split at read
    · cases read
    · cases read
      simp [docLine, Piece.after]
  · split at read
    · cases read
    · exact block _ _ _ _ read
  · cases read

theorem front_of_docComment {cs : List Char} {d : DocComment} (read : docComment cs = some d) :
    d.piece.1 ≠ [] := by
  obtain ⟨e, found, read⟩ := Option.bind_eq_some_iff.mp read
  split at read
  · cases read
  · cases read
    exact front_of_anyDocComment found

end Spelling

/-! ### Signs and words of tokens -/

namespace Token

def leaves : Token → Drawn
  | .word _ w => { names := [w] }
  | .punct p c _ => { marks := if c = '#' then [p] else [] }
  | .literal .. => {}
  | .group _ _ inner => leavesAll inner
where
  leavesAll : List Token → Drawn
    | [] => {}
    | t :: rest => leaves t ++ leavesAll rest

export leaves (leavesAll)

theorem leavesAll_append (ts us : List Token) : leavesAll (ts ++ us) = leavesAll ts ++ leavesAll us := by
  induction ts with
  | nil => rfl
  | cons t rest ih => rw [List.cons_append, leavesAll, leavesAll, ih, Drawn.append_assoc]

theorem sign_of_markAt? {t : Token} {rest : List Token} {p : Position}
    (found : markAt? (t :: rest) = some p) : ∃ spacing, t = .punct p '#' spacing := by
  unfold markAt? at found
  split at found
  · rename_i front
    split at found
    · cases found
      exact ⟨_, (List.cons.inj front).1⟩
    · cases found
  · rename_i front
    split at found
    · cases found
      exact ⟨_, (List.cons.inj front).1⟩
    · cases found
  · cases found

mutual

theorem drawn_le_leaves (t : Token) : t.drawn ≤ t.leaves := by
  cases t with
  | word p w =>
    refine ⟨List.nil_sublist _, ?_⟩
    unfold drawn leaves
    split
    · exact List.Subset.refl _
    · exact List.nil_subset _
  | punct | literal => exact Drawn.nil_le _
  | group p d inner => exact drawnAll_le_leavesAll inner

theorem drawnAll_le_leavesAll (ts : List Token) : drawnAll ts ≤ leavesAll ts := by
  cases ts with
  | nil => exact Drawn.nil_le _
  | cons t rest =>
    rw [drawnAll, leavesAll]
    refine Drawn.append_le_append ?_ (drawnAll_le_leavesAll rest)
    cases found : markAt? (t :: rest) with
    | none => exact drawn_le_leaves t
    | some p =>
      obtain ⟨spacing, rfl⟩ := sign_of_markAt? found
      exact Drawn.le_refl _

end

mutual

theorem canName_of_mem_drawn (t : Token) {w : String} (member : w ∈ t.drawn.names) : canName w = true := by
  cases t with
  | word p v =>
    unfold drawn at member
    split at member
    · rename_i own
      rw [List.mem_singleton.mp member]
      exact own
    · cases member
  | punct | literal => cases member
  | group p d inner => exact canName_of_mem_drawnAll inner member

theorem canName_of_mem_drawnAll (ts : List Token) {w : String} (member : w ∈ (drawnAll ts).names) :
    canName w = true := by
  cases ts with
  | nil => cases member
  | cons t rest =>
    rcases List.mem_append.mp member with here | later
    · exact canName_of_mem_drawn t here
    · exact canName_of_mem_drawnAll rest later

end

/-! ### What a reading preserves -/

namespace Reading

open Spelling (Piece)

/-- The signs and words in front of open groups, the outermost first. -/
def groupLeaves : List OpenGroup → Drawn
  | [] => {}
  | g :: outer => groupLeaves outer ++ leavesAll g.before.reverse

def leaves (r : Reading) : Drawn := groupLeaves r.groups ++ leavesAll r.tokens.reverse

/-- Signs stand in order and before the place of the reading. -/
structure Ordered (r : Reading) : Prop where
  ascending : r.leaves.marks.Pairwise Position.Before
  before : ∀ p ∈ r.leaves.marks, p.Before r.position
  spelled : ∀ w ∈ r.leaves.names, Spelled w

variable {r r' : Reading}

theorem leaves_past (r : Reading) (p : Piece) (ts : List Token) :
    (r.past p ts).leaves = r.leaves ++ leavesAll ts := by
  rw [leaves, past, leaves, List.reverse_append, List.reverse_reverse, leavesAll_append,
    Drawn.append_assoc]

theorem ordered_past (ordered : r.Ordered) {p : Piece} {ts : List Token}
    (signs : (leavesAll ts).marks = [] ∨ (leavesAll ts).marks = [r.position] ∧ p.1 ≠ [])
    (words : ∀ w ∈ (leavesAll ts).names, Spelled w) : (r.past p ts).Ordered := by
  constructor
  · rw [leaves_past, Drawn.marks_append]
    rcases signs with none | ⟨one, _⟩
    · rw [none, List.append_nil]
      exact ordered.ascending
    · rw [one]
      refine List.pairwise_append.mpr ⟨ordered.ascending, List.pairwise_singleton _ _, ?_⟩
      intro q earlier q' here
      rw [List.mem_singleton.mp here]
      exact ordered.before q earlier
  · intro q member
    rw [leaves_past, Drawn.marks_append] at member
    rcases List.mem_append.mp member with earlier | here
    · exact Position.before_advance_of_before p.1 (ordered.before q earlier)
    · rcases signs with none | ⟨one, some'⟩
      · rw [none] at here
        cases here
      · rw [one] at here
        rw [List.mem_singleton.mp here]
        exact Position.before_advance r.position some'
  · intro w member
    rw [leaves_past, Drawn.names_append] at member
    rcases List.mem_append.mp member with earlier | here
    · exact ordered.spelled w earlier
    · exact words w here

theorem ordered_enter (ordered : r.Ordered) (d : Delimiter) (c : Char) (rest : List Char) :
    (r.enter d c rest).Ordered := by
  have same : (r.enter d c rest).leaves = r.leaves := Drawn.append_nil _
  refine ⟨same ▸ ordered.ascending, fun p member => ?_, same ▸ ordered.spelled⟩
  rw [same] at member
  exact Position.before_trans (ordered.before p member) (Position.before_next _ c)

theorem ordered_leave (ordered : r.Ordered) {g : OpenGroup} {outer : List OpenGroup} (opened : r.groups = g :: outer)
    (c : Char) (rest : List Char) :
    Ordered ⟨rest, r.position.next c, outer, .group g.start g.delimiter r.tokens.reverse :: g.before⟩ := by
  have same : leaves ⟨rest, r.position.next c, outer, .group g.start g.delimiter r.tokens.reverse :: g.before⟩ =
      r.leaves := by
    rw [leaves, leaves, opened, groupLeaves, List.reverse_cons, leavesAll_append, Drawn.append_assoc]
    exact congrArg _ (congrArg _ (Drawn.append_nil _))
  refine ⟨same ▸ ordered.ascending, fun p member => ?_, same ▸ ordered.spelled⟩
  rw [same] at member
  exact Position.before_trans (ordered.before p member) (Position.before_next _ c)

theorem ordered_leaf (ordered : r.Ordered) {p : Piece} {t : Token} (own : r.IsLeaf p t) : (r.past p [t]).Ordered := by
  cases own with
  | literal => exact ordered_past ordered (Or.inl rfl) (by simp [leavesAll, Token.leaves])
  | @punct c =>
    refine ordered_past ordered ?_ (by simp [leavesAll, Token.leaves])
    by_cases sign : c = '#' <;> simp [leavesAll, Token.leaves, sign]
  | word read =>
    refine ordered_past ordered (Or.inl rfl) fun w member => ?_
    obtain rfl : w = String.ofList p.1 := by simpa [leavesAll, Token.leaves] using member
    exact Spelling.spelled_of_word read

theorem ordered_doc (ordered : r.Ordered) {d : Spelling.DocComment} (found : Spelling.docComment r.chars = some d) :
    (r.past d.piece (d.tokens r.position)).Ordered := by
  refine ordered_past ordered (Or.inr ⟨?_, Spelling.front_of_docComment found⟩) ?_
  · cases inner : d.inner <;> simp [Spelling.DocComment.tokens, leavesAll, Token.leaves, inner]
  · have only : ∀ w ∈ (leavesAll (d.tokens r.position)).names, w = "doc" := by
      cases inner : d.inner <;> simp [Spelling.DocComment.tokens, leavesAll, Token.leaves, inner]
    intro w member
    rw [only w member]
    exact Or.inl (by decide)

theorem ordered_step (ordered : r.Ordered) (step : r.Step r') : r'.Ordered := by
  cases step with
  | gap => exact ordered_past ordered (Or.inl rfl) (by simp [leavesAll])
  | doc found => exact ordered_doc ordered found
  | broken => exact ordered_past ordered (Or.inl rfl) (by simp [leavesAll, Token.leaves])
  | enter d c rest => exact ordered_enter ordered d c rest
  | leave opened c rest => exact ordered_leave ordered opened c rest
  | leaf own => exact ordered_leaf ordered own

end Reading

theorem ordered_ofChars? {cs : List Char} {ts : List Token} (read : ofChars? cs = some ts) :
    (leavesAll ts).marks.Pairwise Position.Before ∧ ∀ w ∈ (leavesAll ts).names, Spelled w := by
  have start (p : Position) (cs : List Char) : Reading.Ordered ⟨cs, p, [], []⟩ :=
    ⟨List.Pairwise.nil, by simp [Reading.leaves, Reading.groupLeaves, leavesAll],
      by simp [Reading.leaves, Reading.groupLeaves, leavesAll]⟩
  have keeps : Reading.Keeps Reading.Ordered := fun _ _ _ _ ordered _ read =>
    Reading.ordered_step ordered (Reading.of_step read)
  obtain ⟨r, ordered, -, closed, rfl⟩ := exists_of_ofChars? keeps start read
  have whole : r.leaves = leavesAll r.tokens.reverse := by
    rw [Reading.leaves, closed]
    rfl
  exact ⟨whole ▸ ordered.ascending, whole ▸ ordered.spelled⟩

end Token

namespace Grammar

open Syntax (SourceFile)

variable {source : String} {f : SourceFile}

theorem ascending_of_sourceFile (parsed : sourceFile source = .ok f) :
    (fileDrawn f).marks.Pairwise Position.Before := by
  obtain ⟨ts, read, drawn⟩ := sourceFile_drawn parsed
  exact (Token.ordered_ofChars? read).1.sublist (drawn.1.trans (Token.drawnAll_le_leavesAll ts).1)

theorem spelled_of_sourceFile (parsed : sourceFile source = .ok f) :
    ∀ w ∈ (fileDrawn f).names, Spelled w ∧ Token.canName w = true := by
  obtain ⟨ts, read, drawn⟩ := sourceFile_drawn parsed
  intro w member
  have among := drawn.2 member
  have word := (Token.drawnAll_le_leavesAll ts).2 among
  exact ⟨(Token.ordered_ofChars? read).2 w word, Token.canName_of_mem_drawnAll ts among⟩

end Grammar

end SlotBinding
