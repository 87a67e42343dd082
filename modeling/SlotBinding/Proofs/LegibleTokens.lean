import SlotBinding.Proofs.LiteralSpelling
import SlotBinding.Proofs.Respects

/-!
# Tokens of a source are legible

Whatever text tokens are read from, each is spelled in a way that can be read again. `Lexed` says more: such tokens
stay legible in front of and behind each other. `lexed_of_ofChars?`: the tokens of a text are lexed, all the way into
its groups.
-/

namespace SlotBinding

open Spelling

namespace Token

/-! ### Lexed tokens -/

/-- Tokens that are spelled as source spells them. A quote that is no part of a literal stands in front of a word, or
of a literal that begins like one. -/
inductive Lexed : List Token → Prop
  | nil : Lexed []
  | word {p : Position} {w : String} {ts : List Token} (spelled : Spelled w) (rest : Lexed ts) : Lexed (.word p w :: ts)
  | punct {p : Position} {c : Char} {s : Spacing} {ts : List Token} (mark : c ∈ punctuation) (single : c ≠ '\'')
      (rest : Lexed ts) : Lexed (.punct p c s :: ts)
  | quote {p : Position} {t : Token} {ts : List Token} (starts : t.StartsWord) (rest : Lexed (t :: ts)) :
      Lexed (.punct p '\'' .joint :: t :: ts)
  | literal {p : Position} {l : Literal} {ts : List Token} (spelled : l.Legible) (rest : Lexed ts) :
      Lexed (.literal p l :: ts)
  | group {p : Position} {d : Delimiter} {inner ts : List Token} (inside : Lexed inner) (rest : Lexed ts) :
      Lexed (.group p d inner :: ts)

namespace Lexed

variable {t : Token} {ts us : List Token}

theorem append (lexed : Lexed ts) (others : Lexed us) : Lexed (ts ++ us) := by
  induction lexed with
  | nil => exact others
  | word spelled _ ih => exact .word spelled ih
  | punct mark single _ ih => exact .punct mark single ih
  | quote starts _ ih => exact .quote starts ih
  | literal spelled _ ih => exact .literal spelled ih
  | group inside _ _ ih => exact .group inside ih

theorem tail (lexed : Lexed (t :: ts)) : Lexed ts := by
  cases lexed <;> assumption

theorem behind (lexed : Lexed (ts ++ us)) : Lexed us := by
  induction ts with
  | nil => exact lexed
  | cons t ts ih => exact ih lexed.tail

/-- What stands in front of a token is lexed alone, unless it ends with a quote for that token. -/
theorem front (lexed : Lexed (ts ++ t :: us)) (other : ¬t.StartsWord) : Lexed ts := by
  induction ts with
  | nil => exact .nil
  | cons u ts ih =>
    have rest := ih lexed.tail
    rw [List.cons_append] at lexed
    generalize whole : ts ++ t :: us = more at lexed
    cases lexed with
    | word spelled => exact .word spelled rest
    | punct mark single => exact .punct mark single rest
    | literal spelled => exact .literal spelled rest
    | group inside => exact .group inside rest
    | quote starts =>
      cases ts with
      | nil =>
        obtain rfl := (List.cons.inj whole).1
        exact absurd starts other
      | cons v ts =>
        obtain rfl := (List.cons.inj whole).1
        exact .quote starts rest

theorem not_startsWord_mark {p : Position} {c : Char} {s : Spacing} (mark : c ∈ punctuation) :
    ¬(Token.punct p c s).StartsWord := by
  apply not_startsWord_punct
  rw [Bool.eq_false_iff]
  exact fun start => (apart_of_start start).2 mark

theorem unquoted (starts : t.StartsWord) (lexed : Lexed (t :: ts)) {c : Char} (stops : Stops c) (rest : List Char) :
    quotedLiteral ('\'' :: ((textAll (t :: ts)).toList ++ c :: rest)) = none := by
  have gap : t.gapAfter = " " := by
    cases lexed with
    | word | literal | group => rfl
    | punct mark => exact absurd starts (not_startsWord_mark mark)
    | quote => exact absurd starts (not_startsWord_mark (by decide +kernel))
  obtain ⟨d, more, stops', text, -⟩ := exists_stop t ts gap stops rest
  obtain ⟨x, w, chars, start, unclosed⟩ := starts
  rw [text, chars]
  apply quotedLiteral_of_unclosed
  · rintro rfl
    exact (apart_of_start start).1 (by simp)
  · cases w with
    | nil =>
      intro closed
      obtain rfl : d = '\'' := by simpa using closed
      simp [Stops] at stops'
    | cons z w => simpa using unclosed

theorem legible (lexed : Lexed ts) : Legible ts := by
  induction lexed with
  | nil => exact .nil
  | word spelled _ ih => exact .word spelled ih
  | punct mark single _ ih => exact .punct mark single ih
  | quote starts rest ih => exact .quote (fun _ stops more => unquoted starts rest stops more) ih
  | literal spelled _ ih => exact .literal spelled ih
  | group _ _ inside ih => exact .group inside ih

end Lexed

theorem lexed_minus {l : Literal} {rest : List Char}
    (legible : ({ l with text := String.ofList rest } : Literal).Legible) :
    Lexed [.punct .unknown '-' .alone, .literal .unknown { l with text := String.ofList rest }] :=
  .punct (by decide +kernel) (by decide) (.literal legible .nil)

theorem lexed_ofLiteral {l : Literal} (legible : l.Legible) : Lexed (ofLiteral l) := by
  unfold ofLiteral
  split
  · rename_i rest minus
    apply lexed_minus
    obtain ⟨quote, suffix, chars, quoted, inert⟩ := legible
    rw [minus] at chars
    -- No quoted literal begins with a minus sign.
    obtain rfl : quote = [] := by
      rcases quoted with empty | ⟨kind, read⟩
      · exact empty
      · cases quote with
        | nil => rfl
        | cons c quote =>
          obtain rfl := (List.cons.inj chars).1
          rw [quotedLiteral_of_head (by decide)] at read
          cases read
    rw [List.nil_append] at chars
    exact ⟨[], rest, String.toList_ofList, .inl rfl,
      fun c member => inert c (chars ▸ List.mem_cons_of_mem _ member)⟩
  · exact .literal legible .nil

theorem lexed_negative {l : Literal} (legible : l.Legible) : Lexed (ofLiteral { l with text := "-" ++ l.text }) := by
  have chars : ("-" ++ l.text).toList = '-' :: l.text.toList := by simp
  unfold ofLiteral
  simp only [chars]
  apply lexed_minus
  rwa [String.ofList_toList]

theorem lexed_number (n : Int) : Lexed (ofLiteral ⟨.integer, toString n⟩) := by
  have digits (m : Nat) : ∀ c ∈ m.repr.toList, Inert c := by
    intro c member among
    rw [Nat.toList_repr] at member
    have digit := Nat.isDigit_of_mem_toDigits (by decide) (by decide) member
    have others : ['"', '\'', '[', ']'].any Char.isDigit = false := by decide
    exact List.any_eq_false.mp others c among digit
  refine lexed_ofLiteral ⟨[], (toString n).toList, rfl, .inl rfl, ?_⟩
  rw [Int.toString_eq_repr, Int.repr_eq_if]
  split
  · exact digits _
  · rw [String.toList_append]
    exact List.forall_mem_cons.mpr ⟨by decide, digits _⟩

instance : Hereditary Lexed where
  nil := .nil
  append := .append
  behind := .behind
  front := .front
  word lexed q := by
    cases lexed with
    | word spelled => exact .word spelled .nil
  sign lexed other q r := by
    cases lexed with
    | punct mark single => exact .punct mark single .nil
    | quote => exact absurd rfl other
  lifetime lexed p q := by
    cases lexed with
    | punct _ single => exact absurd rfl single
    | quote starts rest =>
      cases rest with
      | word spelled => exact .quote starts (.word spelled .nil)
  literal lexed := by
    cases lexed with
    | literal legible => exact ⟨.literal legible .nil, lexed_ofLiteral legible⟩
  negative lexed := by
    cases lexed with
    | literal legible => exact lexed_negative legible
  number := lexed_number
  inside lexed := by
    cases lexed with
    | group inside => exact inside
  group inside p d := .group inside .nil
  mark among s := by
    have marks : ([',', ':', '<', '>', '.', '='].all fun c => c ∈ punctuation ∧ c ≠ '\'') = true := by
      decide +kernel
    obtain ⟨sign, other⟩ := of_decide_eq_true (List.all_eq_true.mp marks _ among)
    exact .punct sign other .nil
  hole := .word (.inl (by decide)) .nil

/-! ### What a reading keeps -/

namespace Reading

variable {r r' : Reading}

/-- The tokens read so far are lexed; a quote at their end waits for a word. -/
structure Sound (r : Reading) : Prop where
  tokens : Lexed r.tokens.reverse ∨ ∃ p ts, r.tokens = .punct p '\'' .joint :: ts ∧ Lexed ts.reverse ∧
    startsLifetime r.chars = true
  groups : ∀ g ∈ r.groups, Lexed g.before.reverse

theorem lexed_cons {t : Token} {ts : List Token} (lexed : Lexed ts.reverse) (own : Lexed [t]) :
    Lexed (t :: ts).reverse := by
  rw [List.reverse_cons]
  exact lexed.append own

theorem lexed_word {p : Position} {q : Piece} {cs : List Char} (read : Spelling.word cs = some q) :
    Lexed [.word p (String.ofList q.1)] := .word (spelled_of_word read) .nil

theorem step_of_start {c : Char} {rest : List Char} (chars : r.chars = c :: rest)
    (start : Unicode.isIdentifierStart c = true) : r.step c rest = r.leaf := by
  obtain ⟨gap, doc⟩ := gap_of_start start rest
  have other := (apart_of_start start).1
  simp only [List.mem_cons, not_or] at other
  have whole : brokenExpression.isPrefixOf (c :: rest) = false := by
    obtain ⟨more, opens⟩ : ∃ more, brokenExpression = '(' :: more := ⟨_, rfl⟩
    rw [opens]
    simp [List.isPrefixOf, Ne.symm other.2.1]
  have opens : openDelimiter? c = none := by
    unfold openDelimiter?
    split <;> simp_all
  have closes : closeDelimiter? c = none := by
    unfold closeDelimiter?
    split <;> simp_all
  rw [step, chars]
  simp only [gap, doc, whole, opens, closes, Bool.false_eq_true, if_false]

/-- The piece that is read behind a quote begins like a word. -/
theorem startsWord_of_piece {t : Token} {q : Piece} {cs : List Char} (text : t.text = String.ofList q.1)
    (parts : cs = q.1 ++ q.2) (nonempty : q.1 ≠ []) (starts : startsLifetime cs = true) : t.StartsWord := by
  obtain ⟨c, rest, rfl, start, unclosed⟩ := of_startsLifetime starts
  cases front : q.1 with
  | nil => exact absurd front nonempty
  | cons x w =>
    rw [front] at parts
    obtain ⟨rfl, rfl⟩ := List.cons.inj parts
    refine ⟨c, w, by rw [text, String.toList_ofList, front], start, ?_⟩
    cases w with
    | nil => simp
    | cons y w => simpa using unclosed

theorem lexed_quote {p : Position} {t : Token} {ts : List Token} (lexed : Lexed ts.reverse) (own : Lexed [t])
    (starts : t.StartsWord) : Lexed (t :: .punct p '\'' .joint :: ts).reverse := by
  rw [List.reverse_cons, List.reverse_cons, List.append_assoc, List.singleton_append]
  exact lexed.append (.quote starts own)

theorem sound_leaf_of_lifetime {p : Position} {ts : List Token} (newest : r.tokens = .punct p '\'' .joint :: ts)
    (lexed : Lexed ts.reverse) (starts : startsLifetime r.chars = true)
    (groups : ∀ g ∈ r.groups, Lexed g.before.reverse) {q : Piece} {t : Token} (own : r.IsLeaf q t) :
    (r.past q [t]).Sound := by
  obtain ⟨c, rest, chars, start, -⟩ := of_startsLifetime starts
  have sound (single : Lexed [t]) (begins : t.StartsWord) : (r.past q [t]).Sound := by
    refine ⟨.inl ?_, groups⟩
    change Lexed (t :: r.tokens).reverse
    rw [newest]
    exact lexed_quote lexed single begins
  cases own with
  | literal read =>
    obtain ⟨legible, text, parts⟩ := legible_of_literal read
    have nonempty := ne_nil_of_literal start (chars ▸ read)
    exact sound (.literal legible .nil) (startsWord_of_piece text parts nonempty starts)
  | punct read =>
    obtain ⟨front, mark, -⟩ := of_punct_ok read
    obtain rfl := (List.cons.inj (chars.symm.trans front)).1
    exact absurd mark (apart_of_start start).2
  | word read =>
    have nonempty : q.1 ≠ [] := by simpa using ne_nil_of_spelled (spelled_of_word read)
    exact sound (lexed_word read) (startsWord_of_piece rfl (parts_of_word read) nonempty starts)

theorem sound_leaf (lexed : Lexed r.tokens.reverse) (groups : ∀ g ∈ r.groups, Lexed g.before.reverse) {q : Piece}
    {t : Token} (own : r.IsLeaf q t) : (r.past q [t]).Sound := by
  cases own with
  | literal read => exact ⟨.inl (lexed_cons lexed (.literal (legible_of_literal read).1 .nil)), groups⟩
  | @punct c s rest read =>
    obtain ⟨-, mark, quote⟩ := of_punct_ok read
    by_cases single : c = '\''
    · obtain ⟨rfl, starts⟩ := quote single
      subst single
      exact ⟨.inr ⟨_, _, rfl, lexed, starts⟩, groups⟩
    · exact ⟨.inl (lexed_cons lexed (.punct mark single .nil)), groups⟩
  | word read => exact ⟨.inl (lexed_cons lexed (lexed_word read)), groups⟩

theorem legible_brokenExpression : Literal.Legible ⟨.other, String.ofList brokenExpression⟩ := by
  have chars : brokenExpression = ['(', '/', '*', 'E', 'R', 'R', 'O', 'R', '*', '/', ')'] := rfl
  refine ⟨[], brokenExpression, String.toList_ofList, .inl rfl, ?_⟩
  rw [chars]
  simp [Inert]

theorem lexed_docComment (d : DocComment) (p : Position) : Lexed (d.tokens p) := by
  have line : Lexed [.word p "doc", .punct p '=' .alone,
      .literal p ⟨.string, Text.Quoted.literal (String.ofList d.body)⟩] :=
    .word (.inl (by decide)) (.punct (by decide +kernel) (by decide) (.literal (Literal.legible_literal _) .nil))
  have inside : Lexed [.group p .bracket _] := .group line .nil
  unfold DocComment.tokens
  cases d.inner with
  | false => exact .punct (by decide +kernel) (by decide) inside
  | true => exact .punct (by decide +kernel) (by decide) (.punct (by decide +kernel) (by decide) inside)

theorem sound_of_lexed (lexed : Lexed r.tokens.reverse) (groups : ∀ g ∈ r.groups, Lexed g.before.reverse)
    (step : r.Step r') : r'.Sound := by
  cases step with
  | gap => exact ⟨.inl lexed, groups⟩
  | @doc d =>
    refine ⟨.inl ?_, groups⟩
    change Lexed ((d.tokens r.position).reverse ++ r.tokens).reverse
    rw [List.reverse_append, List.reverse_reverse]
    exact lexed.append (lexed_docComment _ _)
  | broken => exact ⟨.inl (lexed_cons lexed (.literal legible_brokenExpression .nil)), groups⟩
  | enter => exact ⟨.inl .nil, List.forall_mem_cons.mpr ⟨lexed, groups⟩⟩
  | leave opened =>
    rw [opened] at groups
    obtain ⟨own, others⟩ := List.forall_mem_cons.mp groups
    exact ⟨.inl (lexed_cons own (.group lexed .nil)), others⟩
  | leaf own => exact sound_leaf lexed groups own

theorem sound_step (sound : r.Sound) {c : Char} {rest : List Char} (chars : r.chars = c :: rest)
    (read : r.step c rest = some r') : r'.Sound := by
  obtain ⟨lexed | ⟨p, ts, newest, lexed, starts⟩, groups⟩ := sound
  · exact sound_of_lexed lexed groups (of_step read)
  · -- A quote waits at the end of the tokens, so that the step reads the word behind it.
    obtain ⟨x, behind, same, start, -⟩ := of_startsLifetime starts
    obtain ⟨rfl, rfl⟩ := List.cons.inj (chars.symm.trans same)
    rw [step_of_start chars start] at read
    obtain ⟨q, t, own, rfl⟩ := of_leaf read
    exact sound_leaf_of_lifetime newest lexed starts groups own

end Reading

/-- All that is read from a text is lexed. -/
theorem lexed_of_ofChars? {cs : List Char} {ts : List Token} (read : ofChars? cs = some ts) : Lexed ts := by
  have start (p : Position) (cs : List Char) : Reading.Sound ⟨cs, p, [], []⟩ := ⟨.inl .nil, by simp⟩
  have keeps : Reading.Keeps Reading.Sound := fun _ _ _ _ sound => Reading.sound_step sound
  obtain ⟨r, sound, ended, -, rfl⟩ := exists_of_ofChars? keeps start read
  rcases sound.tokens with lexed | ⟨p, ts, -, -, starts⟩
  · exact lexed
  · rw [ended] at starts
    cases starts

theorem legible_of_ofString? {s : String} {ts : List Token} (read : ofString? s = some ts) : Legible ts :=
  (lexed_of_ofChars? read).legible

end Token

end SlotBinding
