import SlotBinding.Proofs.AttributeEnds

/-!
# Spellings read alone

The readers of words, literals and punctuation take a piece off the front of a text. `legible_of_literal`: the
piece of a literal is a literal whatever stands behind it, and it has no quotes and brackets but its own.
-/

namespace SlotBinding

namespace Spelling

open Unicode (isIdentifierStart isIdentifierContinue isAsciiDigit)

/-! ### Pieces alone -/

/-- A reader takes its piece off the front, and the piece alone is read in the same way. -/
def Cuts (read : List Char → Option Piece) (cs : List Char) : Prop :=
  ∀ p, read cs = some p → cs = p.1 ++ p.2 ∧ read p.1 = some (p.1, [])

/-- What is left to show where a reader takes the first character and leaves the rest to another one. -/
theorem cuts_after {read inner : List Char → Option Piece} {c : Char} {rest : List Char} {p : Piece}
    (cuts : Cuts inner rest) (taken : (inner rest).map (Piece.after [c]) = some p)
    (alone : ∀ q, inner q = some (q, []) → rest.take q.length = q →
      read (c :: q) = (inner q).map (Piece.after [c])) :
    c :: rest = p.1 ++ p.2 ∧ read p.1 = some (p.1, []) := by
  obtain ⟨q, inside, rfl⟩ := Option.map_eq_some_iff.mp taken
  obtain ⟨parts, again⟩ := cuts q inside
  have front : rest.take q.1.length = q.1 := by rw [parts, List.take_left]
  refine ⟨by rw [parts]; rfl, ?_⟩
  change read (c :: q.1) = some (c :: q.1, [])
  rw [alone q.1 again front, again]
  rfl

theorem cuts_quoted (content : Content) (mode : Mode) (cs : List Char) : Cuts (quoted content mode) cs := by
  induction cs generalizing mode with
  | nil => exact fun _ read => by cases read
  | cons c rest ih =>
    intro p read
    rw [quoted] at read
    cases moves : step content mode c with
    | none => rw [moves] at read; cases read
    | some next =>
      rw [moves, Option.bind_some] at read
      cases next with
      | none =>
        cases read
        exact ⟨rfl, by simp [quoted, moves]⟩
      | some next => exact cuts_after (ih next) read fun q _ _ => by simp [quoted, moves]

theorem cuts_bracedCodePoint (value count : Nat) (cs : List Char) : Cuts (bracedCodePoint value count) cs := by
  induction cs generalizing value count with
  | nil => exact fun _ read => by cases read
  | cons c rest ih =>
    intro p read
    rw [bracedCodePoint] at read
    cases moves : codePointStep value count c with
    | none => rw [moves] at read; cases read
    | some next =>
      rw [moves, Option.bind_some] at read
      cases next with
      | inl next => exact cuts_after (ih next.1 next.2) read fun q _ _ => by simp [bracedCodePoint, moves]
      | inr n =>
        cases read
        exact ⟨rfl, by simp [bracedCodePoint, moves]⟩

theorem cuts_rawQuoted (content : Content) (marks cs : List Char) : Cuts (rawQuoted content marks) cs := by
  induction cs with
  | nil => exact fun _ read => by cases read
  | cons c rest ih =>
    intro p read
    rw [rawQuoted] at read
    by_cases ends : (c == '"' && marks.isPrefixOf rest) = true
    · rw [if_pos ends] at read
      cases read
      rw [Bool.and_eq_true, List.isPrefixOf_iff_prefix] at ends
      obtain ⟨more, rfl⟩ := ends.2
      refine ⟨by simp, ?_⟩
      rw [rawQuoted, if_pos (by simpa using ends.1)]
      simp
    · rw [if_neg ends] at read
      split at read
      · cases read
      · rename_i bare
        split at read
        · cases read
        · rename_i byte
          split at read
          · cases read
          · rename_i nul
            refine cuts_after ih read fun q again front => ?_
            have begins : q <+: rest := front ▸ List.take_prefix _ _
            -- The piece alone ends no earlier, and it does not end behind a carriage return.
            have on : (c == '"' && marks.isPrefixOf q) ≠ true := by
              intro stops
              rw [Bool.and_eq_true, List.isPrefixOf_iff_prefix] at stops
              apply ends
              rw [Bool.and_eq_true, List.isPrefixOf_iff_prefix]
              exact ⟨stops.1, stops.2.trans begins⟩
            have nonempty : q ≠ [] := by
              rintro rfl
              cases again
            have head : q.head? = rest.head? := by
              obtain ⟨more, rfl⟩ := begins
              rw [List.head?_append_of_ne_nil _ nonempty]
            rw [rawQuoted, if_neg on, head, if_neg bare, if_neg byte, if_neg nul]

theorem cuts_rawLiteral (content : Content) (cs : List Char) : Cuts (rawLiteral content) cs := by
  intro p read
  obtain ⟨marks, rest, only, rfl⟩ := exists_marks read
  rw [rawLiteral_of_marks content only] at read
  split at read
  · rename_i few
    obtain ⟨q, inside, rfl⟩ := Option.map_eq_some_iff.mp read
    obtain ⟨parts, again⟩ := cuts_rawQuoted content marks rest q inside
    refine ⟨by rw [parts]; simp [Piece.after], ?_⟩
    have whole : (q.after (marks ++ ['"'])).1 = marks ++ '"' :: q.1 := by simp [Piece.after]
    rw [whole, rawLiteral_of_marks content only, if_pos few, again]
    simp [Piece.after]
  · cases read

theorem cuts_characterInside (cs : List Char) : Cuts characterInside cs := by
  intro p read
  unfold characterInside at read
  split at read
  · split at read
    · rename_i hex
      cases read
      exact ⟨rfl, by simp [characterInside, hex]⟩
    · cases read
  · obtain ⟨q, inside, rfl⟩ := Option.map_eq_some_iff.mp read
    obtain ⟨parts, again⟩ := cuts_bracedCodePoint 0 0 _ q inside
    refine ⟨by rw [parts]; rfl, ?_⟩
    change (bracedCodePoint 0 0 q.1).map _ = _
    rw [again]
    rfl
  · split at read
    · rename_i simple
      cases read
      exact ⟨rfl, (inside_of_simpleEscape simple []).1⟩
    · cases read
  · cases read
  · rename_i c rest _ _ long short
    cases read
    have plain : c ≠ '\\' := by
      intro slash
      cases rest with
      | nil => exact short slash rfl
      | cons d rest => exact long d rest slash rfl
    exact ⟨rfl, (inside_of_ne_slash plain []).1⟩
  · cases read

theorem cuts_byteInside (cs : List Char) : Cuts byteInside cs := by
  intro p read
  unfold byteInside at read
  split at read
  · split at read
    · rename_i hex
      cases read
      exact ⟨rfl, by simp [byteInside, hex]⟩
    · cases read
  · split at read
    · rename_i simple
      cases read
      exact ⟨rfl, (inside_of_simpleEscape simple []).2⟩
    · cases read
  · cases read
  · rename_i c rest _ long short
    have plain : c ≠ '\\' := by
      intro slash
      cases rest with
      | nil => exact short slash rfl
      | cons d rest => exact long d rest slash rfl
    split at read
    · rename_i ascii
      cases read
      exact ⟨rfl, by rw [(inside_of_ne_slash plain []).2, if_pos ascii]⟩
    · cases read
  · cases read

theorem cuts_closeQuote {read : List Char → Option Piece} {cs : List Char} (cuts : Cuts read cs)
    (keeps : ∀ cs more, Keeps more (read cs) (read (cs ++ more))) :
    Cuts (fun cs => (read cs).bind closeQuote) cs := by
  intro p taken
  obtain ⟨⟨front, rest⟩, inside, closed⟩ := Option.bind_eq_some_iff.mp taken
  obtain ⟨parts, again⟩ := cuts _ inside
  unfold closeQuote at closed
  split at closed
  · rename_i more closes
    obtain rfl : rest = '\'' :: more := closes
    cases closed
    refine ⟨by rw [parts]; simp, ?_⟩
    change (read (front ++ ['\''])).bind closeQuote = some (front ++ ['\''], [])
    rw [keeps front ['\''] _ again]
    rfl
  · cases closed

/-- The literal is read again from its spelling alone, where the reader behind its prefix cuts. -/
theorem Cuts.literal {read : List Char → Option Piece} {cs front : List Char} {kind found : LiteralKind} {p : Piece}
    (cuts : Cuts read cs) (taken : ((read cs).map fun q => (kind, q.after front)) = some (found, p))
    (opens : ∀ inner, quotedLiteral (front ++ inner) = (read inner).map fun q => (kind, q.after front)) :
    front ++ cs = p.1 ++ p.2 ∧ quotedLiteral p.1 = some (found, (p.1, [])) := by
  obtain ⟨q, inside, same⟩ := Option.map_eq_some_iff.mp taken
  cases same
  obtain ⟨parts, again⟩ := cuts q inside
  refine ⟨by rw [parts]; simp [Piece.after], ?_⟩
  change quotedLiteral (front ++ q.1) = some (_, (front ++ q.1, []))
  rw [opens, again]
  rfl

theorem quotedLiteral_alone {cs : List Char} {kind : LiteralKind} {p : Piece}
    (read : quotedLiteral cs = some (kind, p)) :
    cs = p.1 ++ p.2 ∧ quotedLiteral p.1 = some (kind, (p.1, [])) := by
  unfold quotedLiteral at read
  split at read
  · exact (cuts_quoted .text .plain _).literal read fun _ => rfl
  · exact (cuts_rawLiteral .text _).literal read fun _ => rfl
  · exact (cuts_quoted .bytes .plain _).literal read fun _ => rfl
  · exact (cuts_rawLiteral .bytes _).literal read fun _ => rfl
  · exact (cuts_quoted .nulEnded .plain _).literal read fun _ => rfl
  · exact (cuts_rawLiteral .nulEnded _).literal read fun _ => rfl
  · exact (cuts_closeQuote (cuts_byteInside _) keeps_byteInside).literal read fun _ => rfl
  · exact (cuts_closeQuote (cuts_characterInside _) keeps_characterInside).literal read fun _ => rfl
  · cases read

/-! ### Numbers -/

theorem inert_of_class {f : Char → Bool} (apart : ['"', '\'', '[', ']'].all (fun c => !f c) = true) {c : Char}
    (own : f c = true) : Inert c := by
  intro among
  have other := List.all_eq_true.mp apart c among
  rw [own] at other
  cases other

theorem inert_of_isIdentifierContinue {c : Char} (own : isIdentifierContinue c = true) : Inert c :=
  inert_of_class (by decide) own

/-- A piece off the front that has no quotes and no brackets. -/
def Takes (cs : List Char) (p : Piece) : Prop := cs = p.1 ++ p.2 ∧ ∀ c ∈ p.1, Inert c

theorem takes_nil (cs : List Char) : Takes cs ([], cs) := ⟨rfl, by simp⟩

theorem Takes.after {front cs : List Char} {p : Piece} (takes : Takes cs p) (inert : ∀ c ∈ front, Inert c) :
    Takes (front ++ cs) (p.after front) := by
  refine ⟨by rw [takes.1, Piece.after, List.append_assoc], fun c member => ?_⟩
  rcases List.mem_append.mp member with own | behind
  · exact inert c own
  · exact takes.2 c behind

theorem takes_map_after {c : Char} {cs : List Char} {read : Option Piece} {p : Piece} (inert : Inert c)
    (takes : ∀ q, read = some q → Takes cs q) (taken : read.map (Piece.after [c]) = some p) :
    Takes (c :: cs) p := by
  obtain ⟨q, inside, rfl⟩ := Option.map_eq_some_iff.mp taken
  exact (takes q inside).after fun d member => by rwa [List.mem_singleton.mp member]

theorem takes_digitRun (cs : List Char) : Takes cs (digitRun cs) := by
  refine ⟨List.takeWhile_append_dropWhile.symm, fun c member => ?_⟩
  have own : isDigitOrMark c = true := List.all_eq_true.mp List.all_takeWhile c member
  exact inert_of_class (by decide) own

theorem takes_exponent {cs : List Char} {signed valued : Bool} {p : Piece}
    (read : exponent cs signed valued = some p) : Takes cs p := by
  induction cs generalizing signed valued p with
  | nil =>
    rw [exponent] at read
    split at read
    · cases read
      exact takes_nil []
    · cases read
  | cons c rest ih =>
    rw [exponent] at read
    split at read
    · rename_i mark
      obtain rfl : c = '_' := beq_iff_eq.mp mark
      exact takes_map_after (by decide) (fun q => ih) read
    · split at read
      · rename_i digit
        exact takes_map_after (inert_of_class (by decide) digit) (fun q => ih) read
      · split at read
        · rename_i sign
          split at read
          · cases read
            exact takes_nil _
          · split at read
            · cases read
            · exact takes_map_after (inert_of_class (f := fun c => c == '+' || c == '-') (by decide) sign)
                (fun q => ih) read
        · split at read
          · cases read
            exact takes_nil _
          · cases read

theorem takes_exponentAfter {mantissa rest : List Char} {p : Piece} (inert : ∀ c ∈ mantissa, Inert c)
    (read : exponentAfter mantissa rest = some p) : Takes (mantissa ++ rest) p := by
  cases rest with
  | nil => cases read
  | cons c more =>
    rw [exponentAfter] at read
    split at read
    · rename_i letter
      obtain ⟨q, inside, rfl⟩ := Option.map_eq_some_iff.mp read
      have own : Inert c := inert_of_class (f := fun c => c == 'e' || c == 'E') (by decide) letter
      have front : ∀ d ∈ mantissa ++ [c], Inert d := by
        intro d member
        rcases List.mem_append.mp member with before | last
        · exact inert d before
        · rw [List.mem_singleton.mp last]
          exact own
      have takes := (takes_exponent inside).after front
      rwa [List.append_assoc, List.singleton_append] at takes
    · cases read

theorem takes_floatDigits {cs : List Char} {p : Piece} (read : floatDigits cs = some p) : Takes cs p := by
  obtain ⟨parts, inert⟩ := takes_digitRun cs
  unfold floatDigits at read
  simp only at read
  split at read
  · rename_i c more rest dot
    split at read
    · cases read
    · obtain ⟨behind, fraction⟩ := takes_digitRun rest
      have mantissa : ∀ d ∈ (digitRun (c :: more)).1 ++ '.' :: (digitRun rest).1, Inert d := by
        intro d member
        rcases List.mem_append.mp member with before | member
        · exact inert d before
        · rcases List.mem_cons.mp member with rfl | after
          · decide
          · exact fraction d after
      have whole : c :: more = (digitRun (c :: more)).1 ++ '.' :: (digitRun rest).1 ++ (digitRun rest).2 := by
        rw [List.append_assoc, List.cons_append, ← behind, ← dot]
        exact parts
      cases ends : exponentAfter ((digitRun (c :: more)).1 ++ '.' :: (digitRun rest).1) (digitRun rest).2 with
      | none =>
        rw [ends] at read
        cases read
        exact ⟨whole, mantissa⟩
      | some q =>
        rw [ends] at read
        cases read
        rw [whole]
        exact takes_exponentAfter mantissa ends
  · split at read
    · rw [parts]
      exact takes_exponentAfter inert read
    · cases read
  · cases read

theorem takes_baseDigits {base : Nat} {cs : List Char} {seen : Bool} {p : Piece}
    (read : baseDigits base cs seen = some p) : Takes cs p := by
  induction cs generalizing seen p with
  | nil =>
    rw [baseDigits] at read
    split at read
    · cases read
      exact takes_nil []
    · cases read
  | cons c rest ih =>
    rw [baseDigits] at read
    split at read
    · rename_i mark
      obtain rfl : c = '_' := beq_iff_eq.mp mark
      split at read
      · cases read
      · exact takes_map_after (by decide) (fun q => ih) read
    · split at read
      · rename_i d value
        have own : isHexDigit c = true := by rw [isHexDigit, value]; rfl
        split at read
        · exact takes_map_after (inert_of_class (by decide) own) (fun q => ih) read
        · split at read
          · cases read
          · split at read
            · cases read
              exact takes_nil _
            · cases read
      · split at read
        · cases read
          exact takes_nil _
        · cases read

theorem takes_integerDigits {cs : List Char} {p : Piece} (read : integerDigits cs = some p) : Takes cs p := by
  have prefixed {n : Nat} {front rest : List Char} (letters : ∀ c ∈ front, Inert c)
      (read : (baseDigits n rest false).map (Piece.after front) = some p) : Takes (front ++ rest) p := by
    obtain ⟨q, inside, rfl⟩ := Option.map_eq_some_iff.mp read
    exact (takes_baseDigits inside).after letters
  unfold integerDigits at read
  split at read
  · rename_i rest ten
    have same : rest = cs := by
      unfold IntegerLiteral.base at ten
      split at ten <;> cases ten
      rfl
    rw [← same]
    exact takes_baseDigits read
  · rename_i n rest other named
    unfold IntegerLiteral.base at named
    split at named
    · cases named
      exact prefixed (by simp [Inert]) read
    · cases named
      exact prefixed (by simp [Inert]) read
    · cases named
      exact prefixed (by simp [Inert]) read
    · cases named
      exact absurd rfl other

theorem takes_bareWord {cs : List Char} {p : Piece} (read : bareWord cs = some p) : Takes cs p := by
  have letters := List.all_eq_true.mp (Unicode.all_of_isWord (isWord_of_bareWord read))
  refine ⟨?_, fun c member => inert_of_isIdentifierContinue (letters c member)⟩
  cases cs with
  | nil => cases read
  | cons c rest =>
    rw [bareWord] at read
    split at read
    · cases read
      simp
    · cases read

theorem exists_suffix (p : Piece) : ∃ s, withSuffix p = s.after p.1 ∧ Takes p.2 s := by
  unfold withSuffix
  split
  · rename_i s read
    exact ⟨s, rfl, takes_bareWord read⟩
  · exact ⟨([], p.2), by simp [Piece.after], takes_nil _⟩

theorem takes_withSuffix {cs : List Char} {p : Piece} (takes : Takes cs p) : Takes cs (withSuffix p) := by
  obtain ⟨s, whole, suffix⟩ := exists_suffix p
  rw [whole, takes.1]
  exact suffix.after takes.2

theorem takes_numberLiteral {cs : List Char} {p : Piece} (read : numberLiteral cs = some p) : Takes cs p := by
  have ended {q : Piece} (read : endsWord q = some p) : p = q := by
    unfold endsWord at read
    split at read
    · split at read <;> cases read
      rfl
    · cases read
      rfl
  unfold numberLiteral at read
  split at read
  · rename_i q float
    cases read
    obtain ⟨q, inside, ends⟩ := Option.bind_eq_some_iff.mp float
    rw [ended ends]
    exact takes_withSuffix (takes_floatDigits inside)
  · obtain ⟨q, inside, ends⟩ := Option.bind_eq_some_iff.mp read
    rw [ended ends]
    exact takes_withSuffix (takes_integerDigits inside)

/-! ### Literals -/

theorem legible_of_literal {cs : List Char} {l : Literal} {p : Piece} (read : literal cs = some (l, p)) :
    l.Legible ∧ l.text = String.ofList p.1 ∧ cs = p.1 ++ p.2 := by
  unfold literal at read
  split at read
  · rename_i kind q quoted
    cases read
    obtain ⟨parts, alone⟩ := quotedLiteral_alone quoted
    obtain ⟨s, whole, suffix, inert⟩ := exists_suffix q
    rw [whole]
    refine ⟨⟨q.1, s.1, by simp [Piece.after], Or.inr ⟨kind, alone⟩, inert⟩, rfl, ?_⟩
    rw [parts, suffix, Piece.after, List.append_assoc]
  · obtain ⟨q, number, same⟩ := Option.map_eq_some_iff.mp read
    cases same
    obtain ⟨parts, inert⟩ := takes_numberLiteral number
    exact ⟨⟨[], p.1, by simp, Or.inl rfl, inert⟩, rfl, parts⟩

theorem numberLiteral_of_start {c : Char} (start : isIdentifierStart c = true) (rest : List Char) :
    numberLiteral (c :: rest) = none := by
  have digit := Unicode.not_isAsciiDigit_of_start start
  have float : floatDigits (c :: rest) = none := by
    unfold floatDigits
    simp only
    split <;> simp_all
  have zero : c ≠ '0' := by
    rintro rfl
    cases digit
  have ten : IntegerLiteral.base (c :: rest) = (10, c :: rest) := by
    unfold IntegerLiteral.base
    split <;> simp_all
  have integer : integerDigits (c :: rest) = none := by
    rw [integerDigits, ten]
    change baseDigits 10 (c :: rest) false = none
    rw [baseDigits]
    split
    · rfl
    · split
      · rename_i d value
        have large : ¬d < 10 := by
          unfold IntegerLiteral.digitValue? at value
          split at value
          · rename_i own
            rw [isAsciiDigit, own] at digit
            cases digit
          · split at value
            · cases value
              omega
            · split at value
              · cases value
                omega
              · cases value
        rw [if_neg large]
        split <;> rfl
      · rfl
  rw [numberLiteral, float, integer]
  rfl

theorem ne_nil_of_literal {c : Char} {rest : List Char} {l : Literal} {p : Piece}
    (start : isIdentifierStart c = true) (read : literal (c :: rest) = some (l, p)) : p.1 ≠ [] := by
  unfold literal at read
  split at read
  · rename_i kind q quoted
    cases read
    obtain ⟨-, alone⟩ := quotedLiteral_alone quoted
    obtain ⟨s, whole, -⟩ := exists_suffix q
    rw [whole]
    intro empty
    rw [(List.append_eq_nil_iff.mp empty).1] at alone
    cases alone
  · rw [numberLiteral_of_start start] at read
    cases read

/-! ### Lifetimes -/

/-- Where a lifetime starts, a word begins, and its first character is not closed by a quote. -/
theorem of_startsLifetime {cs : List Char} (starts : startsLifetime cs = true) :
    ∃ c rest, cs = c :: rest ∧ isIdentifierStart c = true ∧ rest.head? ≠ some '\'' := by
  unfold startsLifetime at starts
  cases read : anyWord cs with
  | none =>
    rw [read] at starts
    cases starts
  | some q =>
    rw [read] at starts
    unfold anyWord at read
    split at read
    · exact ⟨'r', _, rfl, by decide, by simp⟩
    · cases cs with
      | nil => cases read
      | cons c rest =>
        rw [bareWord] at read
        split at read
        · rename_i start
          cases read
          refine ⟨c, rest, rfl, start, fun closed => ?_⟩
          cases rest with
          | nil => cases closed
          | cons d more =>
            obtain rfl : d = '\'' := by simpa using closed
            have ends : isIdentifierContinue '\'' = false := by decide
            simp [ends] at starts
        · cases read

theorem isGap_of_start {c : Char} (start : isIdentifierStart c = true) : isGap c = false := by
  let gaps := [9, 10, 11, 12, 13, 0x20, 0x85, 0xa0, 0x1680, 0x2000, 0x2001, 0x2002, 0x2003, 0x2004, 0x2005, 0x2006,
      0x2007, 0x2008, 0x2009, 0x200a, 0x200e, 0x200f, 0x2028, 0x2029, 0x202f, 0x205f, 0x3000]
  have others : gaps.all (fun n => !isIdentifierStart (Char.ofNat n)) = true := by decide +kernel
  cases gap : isGap c with
  | false => rfl
  | true =>
    have number : c.toNat ∈ gaps := by
      simp only [isGap, Unicode.isBlank, Bool.or_eq_true, Bool.and_eq_true, decide_eq_true_eq, beq_iff_eq] at gap
      simp only [gaps, List.mem_cons, List.not_mem_nil, or_false]
      omega
    have other := List.all_eq_true.mp others c.toNat number
    rw [Char.ofNat_toNat, start] at other
    cases other

theorem apart_of_start {c : Char} (start : isIdentifierStart c = true) :
    c ∉ ['/', '(', ')', '[', ']', '\x7b', '\x7d', '\\'] ∧ c ∉ punctuation := by
  have others : (['/', '(', ')', '[', ']', '\x7b', '\x7d', '\\'] ++ punctuation).all
      (fun c => !isIdentifierStart c) = true := by
    decide +kernel
  rw [← not_or, ← List.mem_append]
  intro among
  have other := List.all_eq_true.mp others c among
  rw [start] at other
  cases other

theorem gap_of_start {c : Char} (start : isIdentifierStart c = true) (rest : List Char) :
    gap (c :: rest) = none ∧ docComment (c :: rest) = none := by
  have slash : c ≠ '/' := by
    rintro rfl
    cases start
  have comment : comment (c :: rest) = none := by
    unfold Spelling.comment
    split <;> simp_all
  have doc : anyDocComment (c :: rest) = none := by
    unfold anyDocComment
    split <;> simp_all
  exact ⟨by simp [gap, comment, isGap_of_start start], by rw [docComment, doc]; rfl⟩

/-- A word is taken as a whole where the text behind it does not go on with it. -/
theorem bareWord_of_isWord {cs rest : List Char} (word : Unicode.isWord cs = true)
    (ends : ∀ c ∈ rest.head?, isIdentifierContinue c = false) : bareWord (cs ++ rest) = some (cs, rest) := by
  cases cs with
  | nil => cases word
  | cons c more =>
    simp only [Unicode.isWord, Bool.and_eq_true] at word
    have all := List.all_eq_true.mp word.2
    rw [List.cons_append, bareWord, if_pos word.1, List.takeWhile_append_of_pos all,
      List.dropWhile_append_of_pos all]
    cases rest with
    | nil => simp
    | cons d behind => simp [ends d rfl]

theorem parts_of_word {cs : List Char} {p : Piece} (read : word cs = some p) : cs = p.1 ++ p.2 := by
  unfold word at read
  split at read
  · cases read
  · unfold anyWord at read
    split at read
    · obtain ⟨q, bare, read⟩ := Option.bind_eq_some_iff.mp read
      split at read
      · cases read
      · cases read
        rw [(takes_bareWord bare).1]
        rfl
    · exact (takes_bareWord read).1

theorem of_punct_ok {cs rest : List Char} {c : Char} {s : Spacing} (read : punct cs = some (c, s, rest)) :
    cs = c :: rest ∧ c ∈ punctuation ∧ (c = '\'' → s = .joint ∧ startsLifetime rest = true) := by
  cases cs with
  | nil => cases read
  | cons d more =>
    rw [punct] at read
    split at read
    · cases read
    · rename_i mark
      have known : d ∈ punctuation := by
        unfold isPunct at mark
        split at mark <;> simp_all
      split at read
      · split at read
        · rename_i starts
          cases read
          exact ⟨rfl, known, fun _ => ⟨rfl, starts⟩⟩
        · cases read
      · rename_i other
        cases read
        exact ⟨rfl, known, fun quote => absurd (beq_iff_eq.mpr quote) other⟩

end Spelling

end SlotBinding
