import Mathlib.Data.Nat.Digits.Defs
import Mathlib.Tactic.IntervalCases
import SlotBinding.Proofs.LiteralSpelling
import SlotBinding.Proofs.StringLiteral

/-!
# Integer literals

The grammar of integer literals gives each of them a value, whatever its base, underscores and suffix are.
`Numeral.ofChars?_text`: a literal is read with this value. `literal_numeral`: in front of a parenthesis it is read
as one literal.
-/

namespace SlotBinding

open Unicode (isWord isIdentifierStart isIdentifierContinue isAsciiDigit)

theorem exists_digitChar {c : Char} (digit : c.isDigit = true) : ∃ d < 10, c = d.digitChar := by
  simp only [Char.isDigit, Bool.and_eq_true, decide_eq_true_eq, ge_iff_le, UInt32.le_iff_toNat_le] at digit
  obtain ⟨low, high⟩ : 48 ≤ c.toNat ∧ c.toNat ≤ 57 := digit
  refine ⟨c.toNat - 48, by omega, ?_⟩
  obtain ⟨n, number⟩ : ∃ n, c.toNat = n := ⟨_, rfl⟩
  rw [← Char.ofNat_toNat c, number]
  rw [number] at low high
  interval_cases n <;> rfl

theorem toNat_digitChar {d : Nat} (small : d < 10) : d.digitChar.toNat - '0'.toNat = d := by
  interval_cases d <;> rfl

structure Digits (ds : List Char) : Prop where
  nonempty : ds ≠ []
  all : ∀ c ∈ ds, c.isDigit = true

theorem digits_of_toDigits (n : Nat) : Digits (Nat.toDigits 10 n) :=
  ⟨Nat.toDigits_ne_nil, fun _ member => Nat.isDigit_of_mem_toDigits (by decide) (by decide) member⟩

/-! ### The grammar -/

inductive Base
  | binary
  | octal
  | decimal
  | hexadecimal
  deriving DecidableEq

namespace Base

def radix : Base → Nat
  | binary => 2
  | octal => 8
  | decimal => 10
  | hexadecimal => 16

def mark : Base → List Char
  | binary => ['0', 'b']
  | octal => ['0', 'o']
  | decimal => []
  | hexadecimal => ['0', 'x']

theorem radix_le (b : Base) : b.radix ≤ 16 := by cases b <;> decide

end Base

namespace IntegerLiteral

/-- The characters for a digit; a letter may be in either case. -/
def faces (d : Nat) : List Char := [d.digitChar, d.digitChar.toUpper]

/-- Digits with underscores anywhere among them, the most significant digit first. -/
inductive Spells (radix : Nat) : List Char → List Nat → Prop
  | nil : Spells radix [] []
  | underscore {cs : List Char} {ds : List Nat} (rest : Spells radix cs ds) : Spells radix ('_' :: cs) ds
  | digit {d : Nat} {c : Char} {cs : List Char} {ds : List Nat} (small : d < radix) (face : c ∈ faces d)
      (rest : Spells radix cs ds) : Spells radix (c :: cs) (d :: ds)

inductive BeginsDigits : List Char → Prop
  | digit {d : Char} (own : d.isDigit = true) (rest : List Char) : BeginsDigits (d :: rest)
  | underscore {cs : List Char} (rest : BeginsDigits cs) : BeginsDigits ('_' :: cs)

/-- What may stand behind digits: nothing, or a word that neither goes on with them nor makes another literal of
them, in another base or with an exponent. -/
structure IsSuffix (base : Base) (body suffix : List Char) : Prop where
  word : suffix = [] ∨ isWord suffix = true
  ends : ∀ c ∈ suffix.head?, c ≠ '_' ∧ ∀ d < base.radix, c ∉ faces d
  unmarked : base = .decimal → body = ['0'] → ∀ c ∈ suffix.head?, c ∉ ['b', 'o', 'x']
  whole : base = .decimal → ∀ e ∈ ['e', 'E'], ∀ rest, suffix = e :: rest → ¬BeginsDigits rest

end IntegerLiteral

open IntegerLiteral (faces Spells BeginsDigits IsSuffix digitValue?)

/-- An integer literal of the language. -/
structure Numeral where
  base : Base
  body : List Char
  digits : List Nat
  suffix : List Char
  spells : Spells base.radix body digits
  nonempty : digits ≠ []
  /-- Digits without a mark begin with a digit. -/
  front : base = .decimal → body.head? ≠ some '_'
  ending : IsSuffix base body suffix

namespace Numeral

def text (l : Numeral) : List Char := l.base.mark ++ (l.body ++ l.suffix)

def value (l : Numeral) : Nat := Nat.ofDigits l.base.radix l.digits.reverse

end Numeral

theorem Unicode.ne_of_isIdentifierContinue {c d : Char} (own : isIdentifierContinue c = true)
    (other : isIdentifierContinue d = false) : c ≠ d := by
  rintro rfl
  rw [own] at other
  cases other

/-! ### The value of a literal -/

namespace IntegerLiteral

variable {radix : Nat} {base : Base} {body suffix : List Char} {ds : List Nat}

theorem digitValue?_of_mem_faces {d : Nat} (small : d < 16) {c : Char} (face : c ∈ faces d) :
    digitValue? c = some d ∧ c ≠ '_' := by
  have each : ∀ d < 16, (faces d).all (fun c => digitValue? c == some d && c != '_') = true := by decide
  simpa using List.all_eq_true.mp (each d small) c face

theorem mem_faces_of_digitValue? {c : Char} {d : Nat} (value : digitValue? c = some d) : c ∈ faces d := by
  have each : ∀ n < 128, ∀ d ∈ digitValue? (Char.ofNat n), Char.ofNat n ∈ faces d := by decide +kernel
  have ascii : c.toNat < 128 := by
    unfold digitValue? at value
    simp only [Bool.and_eq_true, decide_eq_true_eq, Char.le_def, UInt32.le_iff_toNat_le] at value
    have number : c.val.toNat = c.toNat := rfl
    have nine : ('9' : Char).val.toNat = 57 := rfl
    have lower : ('f' : Char).val.toNat = 102 := rfl
    have upper : ('F' : Char).val.toNat = 70 := rfl
    split at value
    · omega
    · split at value
      · omega
      · split at value
        · omega
        · cases value
  have own := each c.toNat ascii d
  rw [Char.ofNat_toNat] at own
  exact own value

theorem isDigit_of_mem_faces {d : Nat} (small : d < 10) {c : Char} (face : c ∈ faces d) : c.isDigit = true := by
  have each : ∀ d < 10, (faces d).all Char.isDigit = true := by decide
  exact List.all_eq_true.mp (each d small) c face

theorem not_isFloatMark_of_isDigit {c : Char} (digit : c.isDigit = true) (rest : List Char) :
    isFloatMark c rest = false := by
  obtain ⟨d, small, rfl⟩ := exists_digitChar digit
  interval_cases d <;> rfl

theorem digits_of_spells (spells : Spells radix body ds) (small : radix ≤ 16) (tail : List Char) (v : Nat)
    (seen : Bool) :
    digits radix (body ++ tail) v seen =
      digits radix tail (ds.foldl (fun v d => v * radix + d) v) (seen || !ds.isEmpty) := by
  induction spells generalizing v seen with
  | nil => simp
  | underscore _ ih =>
    rw [List.cons_append, digits, if_pos (by rfl)]
    exact ih v seen
  | @digit d c cs ds below face _ ih =>
    obtain ⟨value, other⟩ := digitValue?_of_mem_faces (by omega) face
    have plain : (radix == 10 && isFloatMark c (cs ++ tail)) = false := by
      by_cases ten : radix = 10
      · rw [not_isFloatMark_of_isDigit (isDigit_of_mem_faces (by omega) face), Bool.and_false]
      · simp [ten]
    rw [List.cons_append, digits, if_neg (by simpa using other), plain, if_neg (by simp)]
    simp only [value, below, if_true]
    rw [ih]
    simp

theorem plain_of_not_beginsDigits {c : Char} {w : List Char} (free : ¬BeginsDigits (c :: w))
    (own : isIdentifierContinue c = true) : c ≠ '-' ∧ c ≠ '+' ∧ isAsciiDigit c = false := by
  refine ⟨Unicode.ne_of_isIdentifierContinue own (by decide),
    Unicode.ne_of_isIdentifierContinue own (by decide), ?_⟩
  rw [Bool.eq_false_iff]
  exact fun digit => free (.digit digit w)

theorem isExponent_of_not_beginsDigits {w : List Char} (free : ¬BeginsDigits w)
    (all : ∀ c ∈ w, isIdentifierContinue c = true) : isExponent w false = false := by
  induction w with
  | nil => rfl
  | cons c w ih =>
    obtain ⟨own, others⟩ := List.forall_mem_cons.mp all
    rw [isExponent]
    split
    · rename_i mark
      obtain rfl : c = '_' := beq_iff_eq.mp mark
      exact ih (fun digits => free (.underscore digits)) others
    · obtain ⟨minus, plus, digit⟩ := plain_of_not_beginsDigits free own
      simp [minus, plus, digit]

/-- What a suffix begins with is no point and no digit, in base ten or in the base of the literal. -/
theorem IsSuffix.first {c : Char} {rest : List Char} (ending : IsSuffix base body (c :: rest)) :
    c ≠ '_' ∧ c ≠ '.' ∧ ∀ d, digitValue? c = some d → base.radix ≤ d ∧ 10 ≤ d := by
  have word : isWord (c :: rest) = true := ending.word.resolve_left (by simp)
  simp only [isWord, Bool.and_eq_true] at word
  obtain ⟨mark, other⟩ := ending.ends c rfl
  have own := Unicode.isIdentifierContinue_of_start word.1
  refine ⟨mark, Unicode.ne_of_isIdentifierContinue own (by decide), fun d value => ?_⟩
  have face := mem_faces_of_digitValue? value
  refine ⟨Nat.le_of_not_lt fun below => other d below face, Nat.le_of_not_lt fun small => ?_⟩
  have digit : isAsciiDigit c = true := isDigit_of_mem_faces small face
  rw [Unicode.not_isAsciiDigit_of_start word.1] at digit
  cases digit

theorem digits_of_suffix (ending : IsSuffix base body suffix) (v : Nat) :
    digits base.radix suffix v true = some ⟨v, suffix⟩ := by
  cases suffix with
  | nil => rfl
  | cons c rest =>
    obtain ⟨mark, point, letter⟩ := ending.first
    have word : isWord (c :: rest) = true := ending.word.resolve_left (by simp)
    have closed : close v true (c :: rest) = some ⟨v, c :: rest⟩ := by simp [close, word]
    have plain : (base.radix == 10 && isFloatMark c rest) = false := by
      cases base with
      | decimal =>
        -- Only an `e` could begin an exponent, and no digit follows this one.
        by_cases e : c ∈ ['e', 'E']
        · simp only [isWord, Bool.and_eq_true] at word
          have free := ending.whole rfl c e rest rfl
          have none := isExponent_of_not_beginsDigits free (List.all_eq_true.mp word.2)
          simp [isFloatMark, point, none]
        · have letters : (c == 'e' || c == 'E') = false := by simpa using e
          simp [isFloatMark, point, letters]
      | binary | octal | hexadecimal => rfl
    rw [digits, if_neg (by simpa using mark), plain, if_neg (by simp)]
    cases value : digitValue? c with
    | none => exact closed
    | some d =>
      obtain ⟨outside, large⟩ := letter d value
      simp only [Nat.not_lt.mpr outside, Nat.not_lt.mpr large, if_false]
      exact closed

theorem isDigitOrMark_of_spells (spells : Spells 10 body ds) : ∀ c ∈ body, Spelling.isDigitOrMark c = true := by
  induction spells with
  | nil => simp
  | underscore _ ih => exact List.forall_mem_cons.mpr ⟨rfl, ih⟩
  | digit small face _ ih =>
    have digit : isAsciiDigit _ = true := isDigit_of_mem_faces small face
    exact List.forall_mem_cons.mpr ⟨by rw [Spelling.isDigitOrMark, digit, Bool.true_or], ih⟩

theorem exists_digit_of_spells (spells : Spells 10 body ds) (nonempty : ds ≠ []) (front : body.head? ≠ some '_') :
    ∃ c rest, body = c :: rest ∧ c.isDigit = true := by
  cases spells with
  | nil => exact absurd rfl nonempty
  | underscore => exact absurd rfl front
  | digit small face => exact ⟨_, _, rfl, isDigit_of_mem_faces small face⟩

theorem foldl_digits (radix : Nat) (ds : List Nat) :
    ds.foldl (fun v d => v * radix + d) 0 = Nat.ofDigits radix ds.reverse := by
  rw [Nat.ofDigits_eq_foldr, List.foldr_reverse]
  congr
  funext v d
  rw [Nat.cast_id, Nat.mul_comm, Nat.add_comm]

end IntegerLiteral

namespace Numeral

variable (l : Numeral)

theorem exists_body (ten : l.base = .decimal) : ∃ c rest, l.body = c :: rest ∧ c.isDigit = true := by
  have spells := l.spells
  rw [ten] at spells
  exact IntegerLiteral.exists_digit_of_spells spells l.nonempty (l.front ten)

theorem exists_text : ∃ c rest, l.text = c :: rest ∧ c.isDigit = true := by
  unfold text
  cases base : l.base with
  | decimal =>
    obtain ⟨c, rest, body, digit⟩ := l.exists_body base
    exact ⟨c, rest ++ l.suffix, by rw [body]; rfl, digit⟩
  | binary | octal | hexadecimal => exact ⟨'0', _, rfl, by decide⟩

/-- The base is read from the front of a literal, if a digit alone has no letter of a mark behind it. -/
theorem base_append {tail : List Char}
    (unmarked : l.base = .decimal → l.body = ['0'] → ∀ c ∈ tail.head?, c ∉ ['b', 'o', 'x']) :
    IntegerLiteral.base (l.base.mark ++ (l.body ++ tail)) = (l.base.radix, l.body ++ tail) := by
  cases base : l.base with
  | decimal =>
    have spells := l.spells
    rw [base] at spells
    have marks := IntegerLiteral.isDigitOrMark_of_spells spells
    obtain ⟨c, rest, body, -⟩ := l.exists_body base
    have plain : ∀ x ∈ ['b', 'o', 'x'], ∀ more, l.body ++ tail ≠ '0' :: x :: more := by
      intro x letter more same
      rw [body, List.cons_append] at same
      obtain ⟨zero, second⟩ := List.cons.inj same
      cases rest with
      | nil =>
        rw [List.nil_append] at second
        exact unmarked base (by rw [body, zero]) x (by rw [second]; rfl) letter
      | cons d rest =>
        obtain rfl : d = x := (List.cons.inj second).1
        have letters : ['b', 'o', 'x'].all (fun x => !Spelling.isDigitOrMark x) = true := by decide
        have other := List.all_eq_true.mp letters d letter
        rw [marks d (by rw [body]; simp)] at other
        cases other
    change IntegerLiteral.base (l.body ++ tail) = (10, l.body ++ tail)
    unfold IntegerLiteral.base
    split
    · rename_i more same
      exact absurd same (plain 'x' (by decide) more)
    · rename_i more same
      exact absurd same (plain 'o' (by decide) more)
    · rename_i more same
      exact absurd same (plain 'b' (by decide) more)
    · rfl
  | binary | octal | hexadecimal => rfl

theorem ofChars?_text : IntegerLiteral.ofChars? l.text = some ⟨l.value, l.suffix⟩ := by
  have base : IntegerLiteral.base l.text = (l.base.radix, l.body ++ l.suffix) := l.base_append l.ending.unmarked
  have begun : (false || !l.digits.isEmpty) = true := by simpa using l.nonempty
  have read : IntegerLiteral.digits l.base.radix (l.body ++ l.suffix) 0 false = some ⟨l.value, l.suffix⟩ := by
    rw [IntegerLiteral.digits_of_spells l.spells l.base.radix_le, begun, IntegerLiteral.foldl_digits]
    exact IntegerLiteral.digits_of_suffix l.ending l.value
  obtain ⟨c, rest, chars, digit⟩ := l.exists_text
  have first : isAsciiDigit c = true := digit
  rw [chars] at base ⊢
  rw [IntegerLiteral.ofChars?, if_pos first, base]
  exact read

end Numeral

/-! ### Reading a literal in front of a parenthesis -/

namespace Spelling

variable {radix : Nat} {body : List Char} {ds : List Nat}

/-- No digit stands here, nor anything else that digits go on with. -/
structure Stopped (base : Base) (body : List Char) (c : Char) (more : List Char) : Prop where
  mark : c ≠ '_'
  point : c ≠ '.'
  letter : ∀ d, digitValue? c = some d → base.radix ≤ d ∧ 10 ≤ d
  unmarked : base = .decimal → body = ['0'] → c ∉ ['b', 'o', 'x']
  whole : base = .decimal → ∀ mantissa, exponentAfter mantissa (c :: more) = none

theorem exponent_of_not_beginsDigits {w : List Char} (free : ¬BeginsDigits w)
    (all : ∀ c ∈ w, isIdentifierContinue c = true) (rest : List Char) :
    exponent (w ++ ')' :: rest) false false = none := by
  induction w with
  | nil => rfl
  | cons c w ih =>
    obtain ⟨own, others⟩ := List.forall_mem_cons.mp all
    rw [List.cons_append, exponent]
    split
    · rename_i mark
      obtain rfl : c = '_' := beq_iff_eq.mp mark
      rw [ih (fun digits => free (.underscore digits)) others]
      rfl
    · obtain ⟨minus, plus, digit⟩ := IntegerLiteral.plain_of_not_beginsDigits free own
      simp [minus, plus, digit]

theorem stopped_of_suffix {base : Base} {suffix : List Char} (ending : IsSuffix base body suffix)
    (rest : List Char) : ∃ c more, suffix ++ ')' :: rest = c :: more ∧ Stopped base body c more := by
  cases suffix with
  | nil =>
    have letter : digitValue? ')' = none := rfl
    refine ⟨')', rest, rfl, by decide, by decide, ?_, fun _ _ => by decide, fun _ _ => rfl⟩
    rw [letter]
    simp
  | cons c w =>
    obtain ⟨mark, point, letter⟩ := ending.first
    refine ⟨c, w ++ ')' :: rest, rfl, mark, point, letter, fun ten zero => ending.unmarked ten zero c rfl, ?_⟩
    intro ten mantissa
    rw [exponentAfter]
    split
    · rename_i e
      have e : c ∈ ['e', 'E'] := by simpa using e
      have word : isWord (c :: w) = true := ending.word.resolve_left (by simp)
      simp only [isWord, Bool.and_eq_true] at word
      rw [exponent_of_not_beginsDigits (ending.whole ten c e w rfl) (List.all_eq_true.mp word.2)]
      rfl
    · rfl

theorem baseDigits_of_spells {base : Base} (spells : Spells base.radix body ds) {c : Char} {more : List Char}
    {before : List Char} (stopped : Stopped base before c more) {seen : Bool} (begun : seen = true ∨ ds ≠ [])
    (front : base = .decimal → seen = true ∨ body.head? ≠ some '_') :
    baseDigits base.radix (body ++ c :: more) seen = some (body, c :: more) := by
  induction spells generalizing seen with
  | nil =>
    obtain rfl : seen = true := begun.resolve_right (· rfl)
    rw [List.nil_append, baseDigits, if_neg (by simpa using stopped.mark)]
    cases value : digitValue? c with
    | none => rfl
    | some d =>
      obtain ⟨outside, large⟩ := stopped.letter d value
      simp only [Nat.not_lt.mpr outside, Nat.not_lt.mpr large, if_false]
      rfl
  | @underscore cs ds _ ih =>
    have begins : base = .decimal → seen = true := fun ten => (front ten).resolve_right (· rfl)
    have taken : (!seen && base.radix == 10) = false := by
      cases base with
      | decimal => rw [begins rfl]; rfl
      | binary | octal | hexadecimal => cases seen <;> rfl
    rw [List.cons_append, baseDigits, if_pos (by rfl), taken, if_neg (by simp),
      ih begun fun ten => .inl (begins ten)]
    rfl
  | @digit d c cs ds below face _ ih =>
    obtain ⟨value, other⟩ := IntegerLiteral.digitValue?_of_mem_faces (below.trans_le base.radix_le) face
    rw [List.cons_append, baseDigits, if_neg (by simpa using other)]
    simp only [value, below, if_true]
    rw [ih (.inl rfl) fun _ => .inl rfl]
    rfl

theorem digitRun_of_spells (spells : Spells 10 body ds) {c : Char} {more : List Char}
    (stopped : Stopped .decimal body c more) : digitRun (body ++ c :: more) = (body, c :: more) := by
  have marks := IntegerLiteral.isDigitOrMark_of_spells spells
  have stops : isDigitOrMark c = false := by
    rw [isDigitOrMark, Bool.or_eq_false_iff, beq_eq_false_iff_ne]
    refine ⟨Bool.eq_false_iff.mpr fun digit => ?_, stopped.mark⟩
    obtain ⟨d, small, rfl⟩ := exists_digitChar digit
    have large := (stopped.letter d (IntegerLiteral.digitValue?_digitChar (by omega))).2
    omega
  rw [digitRun, List.takeWhile_append_of_pos marks, List.dropWhile_append_of_pos marks]
  simp [stops]

theorem quotedLiteral_of_digit {c : Char} (digit : c.isDigit = true) (rest : List Char) :
    quotedLiteral (c :: rest) = none := by
  obtain ⟨d, small, rfl⟩ := exists_digitChar digit
  interval_cases d <;> rfl

variable (l : Numeral) (rest : List Char)

theorem floatDigits_numeral : floatDigits (l.text ++ ')' :: rest) = none := by
  have text : l.text ++ ')' :: rest = l.base.mark ++ (l.body ++ (l.suffix ++ ')' :: rest)) := by
    rw [Numeral.text, List.append_assoc, List.append_assoc]
  obtain ⟨c, more, tail, stopped⟩ := stopped_of_suffix l.ending rest
  rw [text, tail]
  cases base : l.base with
  | decimal =>
    have spells := l.spells
    rw [base] at spells stopped
    have run := digitRun_of_spells spells stopped
    have none := stopped.whole rfl l.body
    obtain ⟨d, others, body, -⟩ := l.exists_body base
    change floatDigits (l.body ++ c :: more) = Option.none
    rw [body] at run none ⊢
    rw [List.cons_append] at run ⊢
    simp only [floatDigits, run]
    split
    · rename_i point
      exact absurd (List.cons.inj point).1 stopped.point
    · split
      · exact none
      · rfl
    · rfl
  | binary | octal | hexadecimal => rfl

theorem integerDigits_numeral :
    integerDigits (l.text ++ ')' :: rest) = some (l.base.mark ++ l.body, l.suffix ++ ')' :: rest) := by
  have text : l.text ++ ')' :: rest = l.base.mark ++ (l.body ++ (l.suffix ++ ')' :: rest)) := by
    rw [Numeral.text, List.append_assoc, List.append_assoc]
  obtain ⟨c, more, tail, stopped⟩ := stopped_of_suffix l.ending rest
  have digits : baseDigits l.base.radix (l.body ++ c :: more) false = some (l.body, c :: more) :=
    baseDigits_of_spells l.spells stopped (.inr l.nonempty) fun ten => .inr (l.front ten)
  have base : IntegerLiteral.base (l.base.mark ++ (l.body ++ c :: more)) = (l.base.radix, l.body ++ c :: more) := by
    apply l.base_append
    rintro ten zero d ⟨⟩
    exact stopped.unmarked ten zero
  rw [text, tail, integerDigits, base]
  cases kind : l.base with
  | decimal =>
    rw [kind] at digits
    exact digits
  | binary | octal | hexadecimal =>
    rw [kind] at digits
    change (baseDigits _ (l.body ++ c :: more) false).map _ = _
    rw [digits]
    rfl

theorem literal_numeral :
    literal (l.text ++ ')' :: rest) = some (⟨.integer, String.ofList l.text⟩, (l.text, ')' :: rest)) := by
  have quoted : quotedLiteral (l.text ++ ')' :: rest) = none := by
    obtain ⟨c, others, chars, digit⟩ := l.exists_text
    rw [chars]
    exact quotedLiteral_of_digit digit _
  have suffix : withSuffix (l.base.mark ++ l.body, l.suffix ++ ')' :: rest) = (l.text, ')' :: rest) := by
    rcases l.ending.word with none | word
    · rw [none, Numeral.text, none, List.append_nil]
      rfl
    · have ends : ∀ c ∈ (')' :: rest).head?, isIdentifierContinue c = false := by simp +decide
      rw [withSuffix, bareWord_of_isWord word ends]
      simp [Piece.after, Numeral.text]
  have number : numberLiteral (l.text ++ ')' :: rest) = some (l.text, ')' :: rest) := by
    rw [numberLiteral, floatDigits_numeral, integerDigits_numeral]
    simp only [Option.bind_none, Option.bind_some, suffix]
    rfl
  have kind : numberKind l.text = .integer := by
    rw [numberKind, l.ofChars?_text]
    rfl
  rw [literal, quoted, number, Option.map_some, kind]

end Spelling

namespace Literal

variable (l : Numeral)

theorem integerValue?_numeral :
    integerValue? ⟨.integer, String.ofList l.text⟩ = some (l.value : Int) ∧
      decimalDigits? ⟨.integer, String.ofList l.text⟩ = some (toString l.value) := by
  have value := l.ofChars?_text
  have unsigned : ∀ rest, l.text ≠ '-' :: rest := by
    obtain ⟨c, others, chars, digit⟩ := l.exists_text
    intro rest signed
    obtain rfl : c = '-' := (List.cons.inj (chars.symm.trans signed)).1
    exact absurd digit (by decide)
  constructor
  · simp [integerValue?, value]
  · simp [decimalDigits?, value]

theorem integerValue?_minus : integerValue? ⟨.integer, "-" ++ String.ofList l.text⟩ = some (-(l.value : Int)) := by
  simp [integerValue?, l.ofChars?_text]

end Literal

theorem IntegerLiteral.isSuffix_nil (base : Base) (body : List Char) : IsSuffix base body [] :=
  ⟨.inl rfl, by simp, by simp, by simp⟩

/-- A word can be a suffix if its first letter is no digit in any base, no underscore and not in a mark. -/
theorem IntegerLiteral.isSuffix_of_isWord {c : Char} {rest : List Char} (word : isWord (c :: rest) = true)
    (plain : c ∉ ['_', 'b', 'o', 'x']) (other : ∀ d < 16, c ∉ faces d) (base : Base) (body : List Char) :
    IsSuffix base body (c :: rest) := by
  refine ⟨.inr word, ?_, ?_, ?_⟩
  · rintro d ⟨⟩
    simp only [List.mem_cons, not_or] at plain
    exact ⟨plain.1, fun d small => other d (small.trans_le base.radix_le)⟩
  · rintro - - d ⟨⟩
    simp only [List.mem_cons, not_or] at plain ⊢
    exact plain.2
  · rintro - e letter more same
    obtain rfl : c = e := (List.cons.inj same).1
    simp only [List.mem_cons, List.not_mem_nil, or_false] at letter
    rcases letter with rfl | rfl <;> exact absurd (by decide) (other 14 (by decide))

namespace Numeral

variable {ds suffix : List Char}

def digitOf (c : Char) : Nat := c.toNat - '0'.toNat

theorem spells_decimal (all : ∀ c ∈ ds, c.isDigit = true) : Spells Base.decimal.radix ds (ds.map digitOf) := by
  induction ds with
  | nil => exact .nil
  | cons c rest ih =>
    obtain ⟨own, others⟩ := List.forall_mem_cons.mp all
    obtain ⟨d, small, rfl⟩ := exists_digitChar own
    rw [List.map_cons, digitOf, toNat_digitChar small]
    exact .digit small List.mem_cons_self (ih others)

def decimal (own : Digits ds) (ending : IsSuffix .decimal ds suffix) : Numeral where
  base := .decimal
  body := ds
  digits := ds.map digitOf
  suffix := suffix
  spells := spells_decimal own.all
  nonempty := by simpa using own.nonempty
  front := fun _ mark => by
    have digit := own.all '_' (List.mem_of_mem_head? mark)
    exact absurd digit (by decide)
  ending := ending

theorem text_decimal (own : Digits ds) (ending : IsSuffix .decimal ds suffix) :
    (decimal own ending).text = ds ++ suffix := rfl

theorem value_decimal (own : Digits ds) (ending : IsSuffix .decimal ds suffix) :
    (decimal own ending).value = Nat.ofDigitChars 10 ds 0 := by
  have each (cs : List Char) (v : Nat) :
      (cs.map digitOf).foldl (fun v d => v * 10 + d) v = Nat.ofDigitChars 10 cs v := by
    induction cs generalizing v with
    | nil => rfl
    | cons c rest ih => rw [List.map_cons, List.foldl_cons, ih, Nat.ofDigitChars_cons, Nat.mul_comm, digitOf]
  rw [← each ds 0, IntegerLiteral.foldl_digits]
  rfl

end Numeral

end SlotBinding
