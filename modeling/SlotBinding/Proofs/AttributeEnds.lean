import SlotBinding.Proofs.Names
import SlotBinding.Proofs.TokenOrder

/-!
# Where an attribute ends

The text of an attribute is closed by a bracket, but its tokens may hold brackets themselves, in groups and in
quoted literals. `attributes_unique`: attributes in front of something else are told apart all the same.
-/

namespace SlotBinding

namespace Spelling

/-! ### Quoted literals in front of other text -/

/-- What is read stays the same with more text behind it. -/
def Keeps (more : List Char) (alone followed : Option Piece) : Prop :=
  ∀ p, alone = some p → followed = some (p.1, p.2 ++ more)

section Keeps

variable {more : List Char} {alone followed : Option Piece}

theorem Keeps.nothing : Keeps more none followed := fun _ read => by cases read

theorem Keeps.piece (front rest : List Char) : Keeps more (some (front, rest)) (some (front, rest ++ more)) :=
  fun _ read => by cases read; rfl

theorem Keeps.after (keeps : Keeps more alone followed) (front : List Char) :
    Keeps more (alone.map (Piece.after front)) (followed.map (Piece.after front)) := by
  intro p read
  obtain ⟨inner, inside, rfl⟩ := Option.map_eq_some_iff.mp read
  rw [keeps inner inside]
  rfl

theorem Keeps.closeQuote (keeps : Keeps more alone followed) :
    Keeps more (alone.bind closeQuote) (followed.bind closeQuote) := by
  intro p read
  obtain ⟨⟨front, rest⟩, inside, read⟩ := Option.bind_eq_some_iff.mp read
  rw [keeps _ inside, Option.bind_some]
  unfold Spelling.closeQuote at read
  split at read
  · rename_i rest' closes
    cases read
    obtain rfl : rest = '\'' :: rest' := closes
    rfl
  · cases read

theorem Keeps.literal {kind found : LiteralKind} {front : List Char} {p : Piece} (keeps : Keeps more alone followed)
    (read : (alone.map fun q => (kind, q.after front)) = some (found, p)) :
    (followed.map fun q => (kind, q.after front)) = some (found, (p.1, p.2 ++ more)) := by
  obtain ⟨inner, inside, same⟩ := Option.map_eq_some_iff.mp read
  cases same
  rw [keeps inner inside]
  rfl

end Keeps

theorem keeps_quoted (content : Content) (mode : Mode) (cs more : List Char) :
    Keeps more (quoted content mode cs) (quoted content mode (cs ++ more)) := by
  induction cs generalizing mode with
  | nil => exact .nothing
  | cons c rest ih =>
    rw [List.cons_append, quoted, quoted]
    cases step content mode c with
    | none => exact .nothing
    | some next =>
      cases next with
      | none => exact .piece [c] rest
      | some mode => exact (ih mode).after [c]

theorem keeps_bracedCodePoint (value count : Nat) (cs more : List Char) :
    Keeps more (bracedCodePoint value count cs) (bracedCodePoint value count (cs ++ more)) := by
  induction cs generalizing value count with
  | nil => exact .nothing
  | cons c rest ih =>
    rw [List.cons_append, bracedCodePoint, bracedCodePoint]
    cases codePointStep value count c with
    | none => exact .nothing
    | some next =>
      cases next with
      | inl next => exact (ih next.1 next.2).after [c]
      | inr n => exact .piece [c] rest

theorem length_of_rawQuoted {content : Content} {marks cs : List Char} {p : Piece}
    (read : rawQuoted content marks cs = some p) : marks.length < cs.length := by
  induction cs generalizing p with
  | nil => cases read
  | cons c rest ih =>
    rw [List.length_cons]
    rw [rawQuoted] at read
    by_cases ends : (c == '"' && marks.isPrefixOf rest) = true
    · rw [Bool.and_eq_true, List.isPrefixOf_iff_prefix] at ends
      exact Nat.lt_succ_of_le ends.2.length_le
    · rw [if_neg ends] at read
      split at read
      · cases read
      · split at read
        · cases read
        · split at read
          · cases read
          · obtain ⟨inner, inside, -⟩ := Option.map_eq_some_iff.mp read
            exact Nat.lt_succ_of_lt (ih inside)

theorem isPrefixOf_append {marks rest : List Char} (fits : marks.length ≤ rest.length) (more : List Char) :
    marks.isPrefixOf (rest ++ more) = marks.isPrefixOf rest := by
  rw [Bool.eq_iff_iff, List.isPrefixOf_iff_prefix, List.isPrefixOf_iff_prefix]
  exact ⟨fun h => List.prefix_of_prefix_length_le h (List.prefix_append _ _) fits,
    fun h => h.trans (List.prefix_append _ _)⟩

theorem keeps_rawQuoted (content : Content) (marks cs more : List Char) :
    Keeps more (rawQuoted content marks cs) (rawQuoted content marks (cs ++ more)) := by
  induction cs with
  | nil => exact .nothing
  | cons c rest ih =>
    intro p read
    have fits : marks.length ≤ rest.length := Nat.le_of_lt_succ (length_of_rawQuoted read)
    rw [List.cons_append, rawQuoted, isPrefixOf_append fits]
    rw [rawQuoted] at read
    by_cases ends : (c == '"' && marks.isPrefixOf rest) = true
    · rw [if_pos ends] at read ⊢
      cases read
      rw [List.drop_append_of_le_length fits]
    · rw [if_neg ends] at read ⊢
      by_cases bare : (c == '\r' && rest.head? != some '\n') = true
      · rw [if_pos bare] at read
        cases read
      · rw [if_neg bare] at read
        have nonempty : rest ≠ [] := by
          rintro rfl
          split at read
          · cases read
          · split at read <;> cases read
        have head : (rest ++ more).head? = rest.head? := List.head?_append_of_ne_nil _ nonempty
        rw [head, if_neg bare]
        split at read
        · cases read
        · rename_i byte
          split at read
          · cases read
          · rename_i nul
            rw [if_neg byte, if_neg nul]
            exact ih.after [c] p read

theorem rawLiteral_of_marks (content : Content) {marks : List Char} (only : ∀ c ∈ marks, c = '#')
    (rest : List Char) :
    rawLiteral content (marks ++ '"' :: rest) =
      if marks.length ≤ 255 then (rawQuoted content marks rest).map (Piece.after (marks ++ ['"'])) else none := by
  have front : (marks ++ '"' :: rest).takeWhile (· == '#') = marks := by
    rw [List.takeWhile_append_of_pos fun c member => by simpa using only c member]
    simp
  simp only [rawLiteral, front, List.drop_left]

/-- A raw literal has its opening quote behind its marks. -/
theorem exists_marks {content : Content} {cs : List Char} {p : Piece} (read : rawLiteral content cs = some p) :
    ∃ marks rest, (∀ c ∈ marks, c = '#') ∧ cs = marks ++ '"' :: rest := by
  unfold rawLiteral at read
  simp only at read
  split at read
  · rename_i rest quote
    have only := List.all_eq_true.mp (List.all_takeWhile (p := (· == '#')) (l := cs))
    have front := List.prefix_iff_eq_append.mp (List.takeWhile_prefix (· == '#') (l := cs))
    refine ⟨cs.takeWhile (· == '#'), rest, fun c member => by simpa using only c member, ?_⟩
    rw [← quote, front]
  · cases read

theorem keeps_rawLiteral (content : Content) (cs more : List Char) :
    Keeps more (rawLiteral content cs) (rawLiteral content (cs ++ more)) := by
  intro p read
  obtain ⟨marks, rest, only, rfl⟩ := exists_marks read
  rw [List.append_assoc, List.cons_append, rawLiteral_of_marks content only]
  rw [rawLiteral_of_marks content only] at read
  split at read
  · rename_i few
    rw [if_pos few]
    exact (keeps_rawQuoted content marks rest more).after _ p read
  · cases read

/-- A letter that may follow a backslash begins no number. -/
theorem inside_of_simpleEscape {c : Char} (simple : isSimpleEscape .text c = true) (rest : List Char) :
    characterInside ('\\' :: c :: rest) = some (['\\', c], rest) ∧
      byteInside ('\\' :: c :: rest) = some (['\\', c], rest) := by
  have letters : c = 'n' ∨ c = 'r' ∨ c = 't' ∨ c = '\\' ∨ c = '\'' ∨ c = '"' ∨ c = '0' := by
    simpa [isSimpleEscape, or_assoc] using simple
  rcases letters with rfl | rfl | rfl | rfl | rfl | rfl | rfl <;> exact ⟨rfl, rfl⟩

theorem inside_of_ne_slash {c : Char} (plain : c ≠ '\\') (rest : List Char) :
    characterInside (c :: rest) = some ([c], rest) ∧
      byteInside (c :: rest) = if c.toNat < 128 then some ([c], rest) else none := by
  constructor
  · unfold characterInside
    split <;> simp_all
  · unfold byteInside
    split <;> simp_all

theorem keeps_characterInside (cs more : List Char) :
    Keeps more (characterInside cs) (characterInside (cs ++ more)) := by
  intro p read
  unfold characterInside at read
  split at read
  · split at read
    · rename_i a b rest hex
      cases read
      simp [characterInside, hex]
    · cases read
  · exact (keeps_bracedCodePoint 0 0 _ more).after _ p read
  · split at read
    · rename_i c rest _ _ simple
      cases read
      exact (inside_of_simpleEscape simple (rest ++ more)).1
    · cases read
  · cases read
  · rename_i c rest _ _ long short
    cases read
    have plain : c ≠ '\\' := by
      intro slash
      cases rest with
      | nil => exact short slash rfl
      | cons d rest => exact long d rest slash rfl
    exact (inside_of_ne_slash plain (rest ++ more)).1
  · cases read

theorem keeps_byteInside (cs more : List Char) :
    Keeps more (byteInside cs) (byteInside (cs ++ more)) := by
  intro p read
  unfold byteInside at read
  split at read
  · split at read
    · rename_i a b rest hex
      cases read
      simp [byteInside, hex]
    · cases read
  · split at read
    · rename_i c rest _ simple
      cases read
      exact (inside_of_simpleEscape simple (rest ++ more)).2
    · cases read
  · cases read
  · rename_i c rest _ long short
    have plain : c ≠ '\\' := by
      intro slash
      cases rest with
      | nil => exact short slash rfl
      | cons d rest => exact long d rest slash rfl
    split at read
    · rename_i ascii
      cases read
      rw [List.cons_append, (inside_of_ne_slash plain (rest ++ more)).2, if_pos ascii]
    · cases read
  · cases read

theorem quotedLiteral_append {cs : List Char} {kind : LiteralKind} {p : Piece}
    (read : quotedLiteral cs = some (kind, p)) (more : List Char) :
    quotedLiteral (cs ++ more) = some (kind, (p.1, p.2 ++ more)) := by
  unfold quotedLiteral at read
  split at read
  · exact (keeps_quoted .text .plain _ more).literal read
  · exact (keeps_rawLiteral .text _ more).literal read
  · exact (keeps_quoted .bytes .plain _ more).literal read
  · exact (keeps_rawLiteral .bytes _ more).literal read
  · exact (keeps_quoted .nulEnded .plain _ more).literal read
  · exact (keeps_rawLiteral .nulEnded _ more).literal read
  · exact (keeps_byteInside _ more).closeQuote.literal read
  · exact (keeps_characterInside _ more).closeQuote.literal read
  · cases read

/-! ### Text without quoted literals -/

/-- In the text only letters of a prefix and marks stand in front of the first quote. -/
def Quotes (cs : List Char) : Prop :=
  ∃ front q rest, cs = front ++ q :: rest ∧ (∀ c ∈ front, c ∈ ['b', 'r', 'c', '#']) ∧ q ∈ ['"', '\'']

theorem quotes_of_rawLiteral {content : Content} (front : List Char) {cs : List Char} {p : Piece}
    (letters : ∀ c ∈ front, c ∈ ['b', 'r', 'c', '#']) (read : rawLiteral content cs = some p) :
    Quotes (front ++ cs) := by
  obtain ⟨marks, rest, only, rfl⟩ := exists_marks read
  refine ⟨front ++ marks, '"', rest, by simp, fun c member => ?_, by simp⟩
  rcases List.mem_append.mp member with letter | mark
  · exact letters c letter
  · simp [only c mark]

theorem quotes_of_quotedLiteral {cs : List Char} {kind : LiteralKind} {p : Piece}
    (read : quotedLiteral cs = some (kind, p)) : Quotes cs := by
  unfold quotedLiteral at read
  split at read
  · exact ⟨[], '"', _, rfl, by simp, by simp⟩
  · obtain ⟨_, raw, -⟩ := Option.map_eq_some_iff.mp read
    exact quotes_of_rawLiteral ['r'] (by simp) raw
  · exact ⟨['b'], '"', _, rfl, by simp, by simp⟩
  · obtain ⟨_, raw, -⟩ := Option.map_eq_some_iff.mp read
    exact quotes_of_rawLiteral ['b', 'r'] (by simp) raw
  · exact ⟨['c'], '"', _, rfl, by simp, by simp⟩
  · obtain ⟨_, raw, -⟩ := Option.map_eq_some_iff.mp read
    exact quotes_of_rawLiteral ['c', 'r'] (by simp) raw
  · exact ⟨['b'], '\'', _, rfl, by simp, by simp⟩
  · exact ⟨[], '\'', _, rfl, by simp, by simp⟩
  · cases read

def Inert (c : Char) : Prop := c ∉ ['"', '\'', '[', ']']

instance (c : Char) : Decidable (Inert c) := inferInstanceAs (Decidable (c ∉ _))

def Stops (c : Char) : Prop := c ∈ [' ', ')', ']', '\x7d']

theorem quotedLiteral_of_unclosed {c : Char} {rest : List Char} (plain : c ≠ '\\')
    (open' : rest.head? ≠ some '\'') :
    quotedLiteral ('\'' :: c :: rest) = none := by
  have unclosed : closeQuote ([c], rest) = none := by
    unfold closeQuote
    split
    · rename_i more closes
      obtain rfl : rest = '\'' :: more := closes
      exact absurd rfl open'
    · rfl
  rw [quotedLiteral, (inside_of_ne_slash plain rest).1, Option.bind_some, unclosed]
  rfl

theorem quotedLiteral_of_inert {w : List Char} (nonempty : w ≠ []) (inert : ∀ c ∈ w, Inert c) {c : Char}
    (stops : Stops c) (rest : List Char) : quotedLiteral (w ++ c :: rest) = none := by
  have apart : ∀ c, Stops c → c ∉ ['"', '\''] ∧ c ∉ ['b', 'r', 'c', '#'] := by
    simp [Stops]
  by_contra read
  obtain ⟨⟨kind, p⟩, read⟩ := Option.ne_none_iff_exists'.mp read
  obtain ⟨front, q, more, same, letters, quote⟩ := quotes_of_quotedLiteral read
  rcases List.append_eq_append_iff.mp same with ⟨gap, rfl, behind⟩ | ⟨gap, rfl, behind⟩
  · cases gap with
    | nil => exact (apart c stops).1 ((List.cons.inj behind).1 ▸ quote)
    | cons d gap =>
      obtain rfl : c = d := (List.cons.inj behind).1
      exact (apart c stops).2 (letters c (by simp))
  · cases gap with
    | nil => exact (apart c stops).1 ((List.cons.inj behind).1 ▸ quote)
    | cons d gap =>
      obtain rfl : q = d := (List.cons.inj behind).1
      have inside := inert q (by simp)
      simp [Inert] at inside
      simp [inside] at quote

theorem quotedLiteral_of_head {c : Char} (plain : c ∉ ['"', 'r', 'b', 'c', '\'']) (rest : List Char) :
    quotedLiteral (c :: rest) = none := by
  unfold quotedLiteral
  split <;> simp_all

end Spelling

open Spelling

/-! ### Closing brackets -/

/-- With some brackets open inside an attribute, the rest stands behind the bracket that closes it. -/
inductive Closes : Nat → List Char → List Char → Prop
  | quoted {depth : Nat} {cs out : List Char} {kind : LiteralKind} {p : Piece}
      (read : quotedLiteral cs = some (kind, p)) (on : Closes depth p.2 out) : Closes depth cs out
  | plain {depth : Nat} {c : Char} {cs out : List Char} (unquoted : quotedLiteral (c :: cs) = none)
      (opensNot : c ≠ '[') (closesNot : c ≠ ']') (on : Closes depth cs out) : Closes depth (c :: cs) out
  | opening {depth : Nat} {cs out : List Char} (on : Closes (depth + 1) cs out) : Closes depth ('[' :: cs) out
  | closing {depth : Nat} {cs out : List Char} (on : Closes depth cs out) : Closes (depth + 1) (']' :: cs) out
  | last {cs : List Char} : Closes 0 (']' :: cs) cs

namespace Closes

variable {depth : Nat} {cs a b out : List Char}

theorem unique (first : Closes depth cs a) (second : Closes depth cs b) : a = b := by
  induction first with
  | quoted read _ ih =>
    cases second with
    | quoted read' on =>
      rw [read] at read'
      cases read'
      exact ih on
    | plain unquoted => rw [read] at unquoted; cases unquoted
    | opening => cases read
    | closing => cases read
    | last => cases read
  | plain unquoted opensNot closesNot _ ih =>
    cases second with
    | quoted read => rw [unquoted] at read; cases read
    | plain _ _ _ on => exact ih on
    | opening => exact absurd rfl opensNot
    | closing => exact absurd rfl closesNot
    | last => exact absurd rfl closesNot
  | opening _ ih =>
    cases second with
    | quoted read => cases read
    | plain _ opensNot => exact absurd rfl opensNot
    | opening on => exact ih on
  | closing _ ih =>
    cases second with
    | quoted read => cases read
    | plain _ _ closesNot => exact absurd rfl closesNot
    | closing on => exact ih on
  | last =>
    cases second with
    | quoted read => cases read
    | plain _ _ closesNot => exact absurd rfl closesNot
    | last => rfl

theorem run {w : List Char} (inert : ∀ c ∈ w, Inert c) {c : Char} (stops : Stops c)
    (on : Closes depth (c :: cs) out) : Closes depth (w ++ c :: cs) out := by
  induction w with
  | nil => exact on
  | cons x w ih =>
    obtain ⟨own, others⟩ := List.forall_mem_cons.mp inert
    simp only [Inert, List.mem_cons, not_or] at own
    exact .plain (quotedLiteral_of_inert (List.cons_ne_nil x w) inert stops cs) own.2.2.1 own.2.2.2.1 (ih others)

theorem char {c : Char} (inert : Inert c) (plain : c ∉ ['r', 'b', 'c']) (on : Closes depth cs out) :
    Closes depth (c :: cs) out := by
  simp only [Inert, List.mem_cons, not_or] at inert plain
  refine .plain (quotedLiteral_of_head ?_ cs) inert.2.2.1 inert.2.2.2.1 on
  simp [inert, plain]

end Closes

/-! ### Tokens and attributes -/

/-- The text is a quoted literal with a suffix, or has no quotes and brackets at all. -/
def Literal.Legible (l : Literal) : Prop :=
  ∃ quote suffix, l.text.toList = quote ++ suffix ∧
    (quote = [] ∨ ∃ kind, quotedLiteral quote = some (kind, (quote, []))) ∧ ∀ c ∈ suffix, Inert c

theorem Literal.legible_literal (s : String) : Literal.Legible ⟨.string, Text.Quoted.literal s⟩ := by
  have inside := quoted_literalChars s.toList []
  refine ⟨(Text.Quoted.literal s).toList, [], by simp, Or.inr ⟨.string, ?_⟩, by simp⟩
  simp [Text.Quoted.literal, quotedLiteral, inside, Piece.after]

namespace Token

/-- Tokens that are spelled as source spells them. A quote that is no part of a literal begins none either. -/
inductive Legible : List Token → Prop
  | nil : Legible []
  | word {p : Position} {w : String} {ts : List Token} (spelled : Spelled w) (rest : Legible ts) :
      Legible (.word p w :: ts)
  | punct {p : Position} {c : Char} {s : Spacing} {ts : List Token} (mark : c ∈ punctuation) (single : c ≠ '\'')
      (rest : Legible ts) : Legible (.punct p c s :: ts)
  | quote {p : Position} {ts : List Token}
      (apart : ∀ c, Stops c → ∀ rest, quotedLiteral ('\'' :: ((textAll ts).toList ++ c :: rest)) = none)
      (rest : Legible ts) : Legible (.punct p '\'' .joint :: ts)
  | literal {p : Position} {l : Literal} {ts : List Token} (spelled : l.Legible) (rest : Legible ts) :
      Legible (.literal p l :: ts)
  | group {p : Position} {d : Delimiter} {inner ts : List Token} (inside : Legible inner) (rest : Legible ts) :
      Legible (.group p d inner :: ts)

theorem toList_textAll_cons (t : Token) (ts : List Token) :
    (textAll (t :: ts)).toList =
      t.text.toList ++ if ts = [] then [] else (gapAfter t).toList ++ (textAll ts).toList := by
  cases ts <;> simp [textAll]

/-- Behind a token that does not stick to the next one stands a blank or what stands behind all. -/
theorem exists_stop (t : Token) (ts : List Token) (gap : gapAfter t = " ") {c : Char} (stops : Stops c)
    (rest : List Char) :
    ∃ d more, Stops d ∧ (textAll (t :: ts)).toList ++ c :: rest = t.text.toList ++ d :: more ∧
      ∀ depth out, Closes depth ((textAll ts).toList ++ c :: rest) out → Closes depth (d :: more) out := by
  rw [toList_textAll_cons, gap, List.append_assoc]
  by_cases last : ts = []
  · subst last
    exact ⟨c, rest, stops, by simp, fun _ _ on => on⟩
  · refine ⟨' ', _, by simp [Stops], by rw [if_neg last]; rfl, fun depth out on => ?_⟩
    exact on.char (by decide) (by decide)

def IsLetter (c : Char) : Prop := c = '#' ∨ Unicode.isIdentifierContinue c = true

theorem letters_of_spelled {w : String} (spelled : Spelled w) : ∀ c ∈ w.toList, IsLetter c := by
  intro c member
  rcases spelled with word | ⟨bare, chars, word, -⟩
  · exact Or.inr (List.all_eq_true.mp (Unicode.all_of_isWord word) c member)
  · rw [chars] at member
    rcases List.mem_cons.mp member with rfl | member
    · exact Or.inr (by decide)
    · rcases List.mem_cons.mp member with rfl | member
      · exact Or.inl rfl
      · exact Or.inr (List.all_eq_true.mp (Unicode.all_of_isWord word) c member)

theorem not_isLetter : ∀ c ∈ ['"', '\'', '[', ']', ' ', ':'], ¬IsLetter c := by
  simp only [List.mem_cons, List.not_mem_nil, or_false, forall_eq_or_imp, forall_eq, IsLetter]
  decide

theorem inert_of_spelled {w : String} (spelled : Spelled w) : ∀ c ∈ w.toList, Inert c := by
  intro c member among
  exact not_isLetter c (List.mem_append_left [' ', ':'] among) (letters_of_spelled spelled c member)

theorem ne_nil_of_spelled {w : String} (spelled : Spelled w) : w.toList ≠ [] := by
  rcases spelled with word | ⟨bare, chars, -⟩
  · intro none
    rw [none] at word
    cases word
  · rw [chars]
    simp

theorem inert_of_mark {c : Char} (mark : c ∈ punctuation) (single : c ≠ '\'') :
    Inert c ∧ c ∉ ['r', 'b', 'c'] := by
  have marks : punctuation.all (fun c => c == '\'' || decide (Inert c ∧ c ∉ ['r', 'b', 'c'])) = true := by
    decide +kernel
  simpa [single] using List.all_eq_true.mp marks c mark

theorem closes_textAll {ts : List Token} (legible : Legible ts) {depth : Nat} {c : Char} {rest out : List Char}
    (stops : Stops c) (on : Closes depth (c :: rest) out) :
    Closes depth ((textAll ts).toList ++ c :: rest) out := by
  induction legible generalizing depth c rest out with
  | nil => exact on
  | @word p w ts spelled _ ih =>
    obtain ⟨d, more, stops', text, passed⟩ := exists_stop (.word p w) ts rfl stops rest
    rw [text]
    exact .run (inert_of_spelled spelled) stops' (passed _ _ (ih stops on))
  | @punct p mark s ts known single _ ih =>
    obtain ⟨inert, plain⟩ := inert_of_mark known single
    have text : (Token.punct p mark s).text.toList = [mark] := by simp [Token.text]
    rw [toList_textAll_cons, text, List.append_assoc, List.singleton_append]
    apply Closes.char inert plain
    have on := ih stops on
    by_cases last : ts = []
    · subst last
      exact on
    · rw [if_neg last, List.append_assoc]
      cases s with
      | joint => exact on
      | alone =>
        have blank : (Token.punct p mark .alone).gapAfter.toList = [' '] := by simp [gapAfter]
        rw [blank]
        exact on.char (by decide) (by decide)
  | @quote p ts apart _ ih =>
    have text : (textAll (.punct p '\'' .joint :: ts)).toList = '\'' :: (textAll ts).toList := by
      rw [toList_textAll_cons]
      by_cases last : ts = [] <;> simp [last, Token.text, gapAfter, textAll]
    rw [text]
    exact .plain (apart c stops rest) (by decide) (by decide) (ih stops on)
  | @literal p l ts spelled _ ih =>
    obtain ⟨d, more, stops', text, passed⟩ := exists_stop (.literal p l) ts rfl stops rest
    have on' := passed _ _ (ih stops on)
    obtain ⟨quote, suffix, chars, quoted, inert⟩ := spelled
    have literal : (Token.literal p l).text.toList = quote ++ suffix := chars
    rw [text, literal, List.append_assoc]
    rcases quoted with rfl | ⟨kind, read⟩
    · exact .run inert stops' on'
    · exact .quoted (quotedLiteral_append read _) (.run inert stops' on')
  | @group p d inner ts _ _ ihInside ih =>
    obtain ⟨e, more, stops', text, passed⟩ := exists_stop (.group p d inner) ts rfl stops rest
    have on' := passed _ _ (ih stops on)
    rw [text, Token.text]
    cases d with
    | paren =>
      have closed : Closes depth (')' :: e :: more) out := on'.char (by decide) (by decide)
      have opened := (ihInside (by simp [Stops]) closed).char (c := '(') (by decide) (by decide)
      simpa [openText, closeText] using opened
    | bracket =>
      have opened := (ihInside (by simp [Stops]) on'.closing).opening
      simpa [openText, closeText] using opened
    | brace =>
      have closed : Closes depth ('\x7d' :: e :: more) out := on'.char (by decide) (by decide)
      cases inner with
      | nil =>
        have opened : Closes depth ('\x7b' :: ' ' :: '\x7d' :: e :: more) out :=
          (closed.char (by decide) (by decide)).char (by decide) (by decide)
        simpa [openText, closeText, textAll] using opened
      | cons t inner =>
        have blank : Closes depth (' ' :: '\x7d' :: e :: more) out := closed.char (by decide) (by decide)
        have opened :
            Closes depth ('\x7b' :: ' ' :: ((textAll (t :: inner)).toList ++ ' ' :: '\x7d' :: e :: more)) out :=
          ((ihInside (by simp [Stops]) blank).char (by decide) (by decide)).char (by decide) (by decide)
        simpa [openText, closeText] using opened

def bracketed (ts : List Token) : String := "# [" ++ textAll ts ++ "]"

theorem bracketed_unique {ts us : List Token} (legibleT : Legible ts) (legibleU : Legible us) {a b : List Char}
    (same : (bracketed ts).toList ++ a = (bracketed us).toList ++ b) : textAll ts = textAll us ∧ a = b := by
  have inside : (textAll ts).toList ++ ']' :: a = (textAll us).toList ++ ']' :: b := by
    simpa [bracketed] using same
  have closesT : Closes 0 _ a := closes_textAll legibleT (c := ']') (by simp [Stops]) .last
  have closesU : Closes 0 _ b := closes_textAll legibleU (c := ']') (by simp [Stops]) .last
  rw [inside] at closesT
  obtain rfl := closesT.unique closesU
  exact ⟨String.toList_inj.mp (List.append_cancel_right inside), rfl⟩

def attributeChars (tss : List (List Token)) : List Char :=
  tss.flatMap fun ts => (bracketed ts).toList ++ [' ']

theorem head?_attributeChars (ts : List Token) (tss : List (List Token)) (a : List Char) :
    (attributeChars (ts :: tss) ++ a).head? = some '#' := by
  simp [attributeChars, bracketed]

/-- Attributes in front of something that is none are told apart by their text. -/
theorem attributes_unique {tss uss : List (List Token)} (legibleT : ∀ ts ∈ tss, Legible ts)
    (legibleU : ∀ us ∈ uss, Legible us) {a b : List Char} (headA : a.head? ≠ some '#')
    (headB : b.head? ≠ some '#')
    (same : attributeChars tss ++ a = attributeChars uss ++ b) :
    tss.map textAll = uss.map textAll ∧ a = b := by
  induction tss generalizing uss with
  | nil =>
    cases uss with
    | nil => exact ⟨rfl, same⟩
    | cons us uss =>
      rw [show attributeChars [] ++ a = a from rfl] at same
      exact absurd (same ▸ head?_attributeChars us uss b) headA
  | cons ts tss ih =>
    cases uss with
    | nil =>
      rw [show attributeChars [] ++ b = b from rfl] at same
      exact absurd (same ▸ head?_attributeChars ts tss a) headB
    | cons us uss =>
      obtain ⟨ownT, othersT⟩ := List.forall_mem_cons.mp legibleT
      obtain ⟨ownU, othersU⟩ := List.forall_mem_cons.mp legibleU
      simp only [attributeChars, List.flatMap_cons, List.append_assoc] at same
      obtain ⟨first, behind⟩ := bracketed_unique ownT ownU same
      obtain ⟨others, rest⟩ := ih othersT othersU (List.cons.inj behind).2
      exact ⟨by rw [List.map_cons, List.map_cons, first, others], rest⟩

end Token

end SlotBinding
