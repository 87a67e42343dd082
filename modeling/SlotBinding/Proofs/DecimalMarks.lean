import SlotBinding.Grammar.Recursion
import SlotBinding.Proofs.Numerals
import SlotBinding.Slot.Argument

/-!
# Marks with a decimal number

A slot can be given as `#[bind(v)]` or as `#[bind(id = v)]`. `decimal_marks_agree`: for a number in base ten,
both give the same slot if the number is one, and both are malformed otherwise.
-/

namespace SlotBinding

open Syntax Grammar

/-- The text is the number in base ten, with a minus sign in front of a negative one. -/
def Decimal (v : Int) (text : String) : Prop :=
  ∃ ds, Digits ds ∧ Nat.ofDigitChars 10 ds 0 = v.natAbs ∧
    text.toList = if v < 0 then '-' :: ds else ds

theorem decimal_toString (v : Int) : Decimal v (toString v) := by
  refine ⟨Nat.toDigits 10 v.natAbs, digits_of_toDigits _, Nat.ofDigitChars_toDigits (by decide) (by decide), ?_⟩
  rw [Int.toString_eq_repr]
  cases v with
  | ofNat n =>
    rw [if_neg (by simp)]
    simp [Int.repr, Nat.repr]
  | negSucc n =>
    rw [if_pos (by simp [Int.negSucc_lt_zero])]
    simp [Int.repr, Nat.repr]

namespace Token

/-! ### Marks as tokens and attributes -/

def ofNumeral (p : Position) (negative : Bool) (ds : List Char) : List Token :=
  if negative then [.punct p '-' .alone, .literal (p.next '-') ⟨.integer, String.ofList ds⟩]
  else [.literal p ⟨.integer, String.ofList ds⟩]

namespace Reading

open Spelling

variable {p : Position} {groups : List OpenGroup} {ts : List Token}

theorem run_of_step {r next : Reading} {c : Char} {rest : List Char} (n : Nat) (chars : r.chars = c :: rest)
    (moves : r.step c rest = some next) : run (n + 1) r = run n next := by
  rw [run, chars]
  simp only [moves]

theorem step_of_digit {r : Reading} {c : Char} {rest : List Char} (chars : r.chars = c :: rest)
    (digit : c.isDigit = true) : r.step c rest = r.leaf := by
  obtain ⟨d, small, rfl⟩ := exists_digitChar digit
  rw [step, chars]
  interval_cases d <;> rfl

theorem run_integer (l : Numeral) (rest : List Char) (n : Nat) :
    run (n + 1) ⟨l.text ++ ')' :: rest, p, groups, ts⟩ =
      run n ⟨')' :: rest, p.advance l.text, groups, .literal p ⟨.integer, String.ofList l.text⟩ :: ts⟩ := by
  have read := Spelling.literal_numeral l rest
  obtain ⟨c, others, chars, digit⟩ := l.exists_text
  rw [chars, List.cons_append] at read ⊢
  apply run_of_step n rfl
  rw [step_of_digit rfl digit, leaf, read]
  rfl

theorem run_decimal {ds : List Char} (decimal : Digits ds) (rest : List Char) (n : Nat) :
    run (n + 1) ⟨ds ++ ')' :: rest, p, groups, ts⟩ =
      run n ⟨')' :: rest, p.advance ds, groups, .literal p ⟨.integer, String.ofList ds⟩ :: ts⟩ := by
  let l := Numeral.decimal decimal (IntegerLiteral.isSuffix_nil _ _)
  have text : l.text = ds := by rw [Numeral.text_decimal, List.append_nil]
  rw [← text]
  exact run_integer l rest n

theorem step_minus {ds : List Char} (decimal : Digits ds) (rest : List Char) (n : Nat) :
    run (n + 1) ⟨'-' :: (ds ++ rest), p, groups, ts⟩ =
      run n ⟨ds ++ rest, p.next '-', groups, .punct p '-' .alone :: ts⟩ := by
  cases ds with
  | nil => exact absurd rfl decimal.nonempty
  | cons c more =>
    obtain ⟨d, small, rfl⟩ := exists_digitChar (decimal.all c (by simp))
    interval_cases d <;> rfl

theorem run_close (n : Nat) {p₁ p₂ : Position} {front before : List Token} :
    run (n + 3) ⟨[')', ']'], p, [⟨p₂, .paren, before⟩, ⟨p₁, .bracket, front⟩], ts⟩ =
      some (front.reverse ++ [.group p₁ .bracket (before.reverse ++ [.group p₂ .paren ts.reverse])]) := by
  have closed : run (n + 3) ⟨[')', ']'], p, [⟨p₂, .paren, before⟩, ⟨p₁, .bracket, front⟩], ts⟩ =
      some (.group p₁ .bracket (.group p₂ .paren ts.reverse :: before).reverse :: front).reverse := rfl
  rw [closed]
  simp

theorem run_numeral {ds : List Char} (decimal : Digits ds) (negative : Bool) (n : Nat) {p₁ p₂ : Position}
    {front before : List Token} :
    run (n + 5) ⟨(if negative then '-' :: ds else ds) ++ [')', ']'], p,
        [⟨p₂, .paren, before⟩, ⟨p₁, .bracket, front⟩], ts⟩ =
      some (front.reverse ++
        [.group p₁ .bracket (before.reverse ++ [.group p₂ .paren (ts.reverse ++ ofNumeral p negative ds)])]) := by
  cases negative with
  | true =>
    rw [if_pos rfl, List.cons_append, step_minus decimal, run_decimal decimal, run_close]
    simp [ofNumeral]
  | false =>
    rw [if_neg (by simp), run_decimal decimal, run_close]
    simp [ofNumeral]

/-- The front of a mark with a number; the parenthesis must not begin a broken expression. -/
theorem run_positional (n : Nat) {cs : List Char} (plain : cs.head? ≠ some '/') :
    run (n + 4) ⟨"#[bind(".toList ++ cs, .first, [], []⟩ =
      run n ⟨cs, ⟨1, 7⟩,
        [⟨⟨1, 6⟩, .paren, [.word ⟨1, 2⟩ "bind"]⟩,
          ⟨⟨1, 1⟩, .bracket, [.punct ⟨1, 0⟩ '#' .alone]⟩], []⟩ := by
  have whole : brokenExpression.isPrefixOf ('(' :: cs) = false := by
    cases cs with
    | nil => rfl
    | cons c rest =>
      have other : '/' ≠ c := fun same => plain (by rw [← same]; rfl)
      obtain ⟨more, opens⟩ : ∃ more, brokenExpression = '(' :: '/' :: more := ⟨_, rfl⟩
      rw [opens]
      simp [List.isPrefixOf, other]
  have opened : run (n + 4) ⟨"#[bind(".toList ++ cs, .first, [], []⟩ =
      run (n + 1)
        ⟨'(' :: cs, ⟨1, 6⟩, [⟨⟨1, 1⟩, .bracket, [.punct ⟨1, 0⟩ '#' .alone]⟩],
          [.word ⟨1, 2⟩ "bind"]⟩ :=
    rfl
  have gapless : gap ('(' :: cs) = none := rfl
  have undocumented : docComment ('(' :: cs) = none := rfl
  rw [opened]
  apply run_of_step n rfl
  rw [Reading.step]
  simp only [gapless, undocumented, whole, Bool.false_eq_true, if_false, openDelimiter?]
  rfl

theorem run_named (n : Nat) (cs : List Char) :
    run (n + 8) ⟨"#[bind(id = ".toList ++ cs, .first, [], []⟩ =
      run n ⟨cs, ⟨1, 12⟩,
        [⟨⟨1, 6⟩, .paren, [.word ⟨1, 2⟩ "bind"]⟩,
          ⟨⟨1, 1⟩, .bracket, [.punct ⟨1, 0⟩ '#' .alone]⟩],
        [.punct ⟨1, 10⟩ '=' .alone, .word ⟨1, 7⟩ "id"]⟩ :=
  rfl

end Reading

def ofMark (inner : List Token) : List Token :=
  [.punct ⟨1, 0⟩ '#' .alone, .group ⟨1, 1⟩ .bracket [.word ⟨1, 2⟩ "bind", .group ⟨1, 6⟩ .paren inner]]

theorem head?_numeral {ds : List Char} (decimal : Digits ds) (negative : Bool) (rest : List Char) :
    ((if negative then '-' :: ds else ds) ++ rest).head? ≠ some '/' := by
  cases negative with
  | true => simp
  | false =>
    cases ds with
    | nil => exact absurd rfl decimal.nonempty
    | cons c more =>
      intro slash
      obtain rfl : c = '/' := by simpa using slash
      exact absurd (decimal.all '/' (by simp)) (by decide)

theorem ofString?_of_mark {text front rest : String} {cs ds : List Char} (front' : front.toList = '#' :: cs)
    (rest' : rest.toList = ds) :
    ofString? (front ++ text ++ rest) =
      Reading.run (text.length + (cs.length + ds.length) + 2)
        ⟨'#' :: cs ++ (text.toList ++ ds), .first, [], []⟩ := by
  have fuel : text.length + (cs.length + ds.length) + 2 = (cs ++ (text.toList ++ ds)).length + 2 := by
    rw [List.length_append, List.length_append, String.length_toList]
    omega
  rw [ofString?, String.toList_append, String.toList_append, List.append_assoc, front', rest', fuel]
  rfl

theorem ofString?_marks {ds : List Char} (decimal : Digits ds) (negative : Bool) {text : String}
    (chars : text.toList = if negative then '-' :: ds else ds) :
    ofString? ("#[bind(" ++ text ++ ")]") = some (ofMark (ofNumeral ⟨1, 7⟩ negative ds)) ∧
      ofString? ("#[bind(id = " ++ text ++ ")]") =
        some (ofMark
          (.word ⟨1, 7⟩ "id" :: .punct ⟨1, 10⟩ '=' .alone :: ofNumeral ⟨1, 12⟩ negative ds)) := by
  have closing : ")]".toList = [')', ']'] := rfl
  constructor
  · have front : "#[bind(".toList = '#' :: ['[', 'b', 'i', 'n', 'd', '('] := rfl
    rw [ofString?_of_mark front closing, ← front, chars]
    exact (Reading.run_positional _ (head?_numeral decimal negative _)).trans
      (Reading.run_numeral decimal _ (text.length + 1))
  · have front : "#[bind(id = ".toList = '#' :: ['[', 'b', 'i', 'n', 'd', '(', 'i', 'd', ' ', '=', ' '] := rfl
    rw [ofString?_of_mark front closing, ← front, chars]
    exact (Reading.run_named _ _).trans (Reading.run_numeral decimal _ (text.length + 2))

end Token

/-- A mark with some tokens between its parentheses is read, whatever the tokens. -/
theorem readAll_ofMark (inner : List Token) :
    ∃ a ts, readAll outerAttributes (Token.ofMark inner) = .ok ([a], ts) ∧ a.isMark = true ∧
      a.argument = .list .paren inner :=
  ⟨_, _, rfl, rfl, rfl⟩

namespace Literal

variable {ds : List Char}

theorem integerValue?_decimal (decimal : Digits ds) :
    integerValue? ⟨.integer, String.ofList ds⟩ = some (Nat.ofDigitChars 10 ds 0 : Int) ∧
      decimalDigits? ⟨.integer, String.ofList ds⟩ = some (toString (Nat.ofDigitChars 10 ds 0)) := by
  have read := integerValue?_numeral (.decimal decimal (IntegerLiteral.isSuffix_nil _ _))
  rwa [Numeral.text_decimal, Numeral.value_decimal, List.append_nil] at read

theorem integerValue?_minus_decimal (decimal : Digits ds) :
    integerValue? ⟨.integer, "-" ++ String.ofList ds⟩ = some (-(Nat.ofDigitChars 10 ds 0 : Int)) := by
  have read := integerValue?_minus (.decimal decimal (IntegerLiteral.isSuffix_nil _ _))
  rwa [Numeral.text_decimal, Numeral.value_decimal, List.append_nil] at read

end Literal

theorem Slot.ofInt?_of_fits {v : Int} (low : -2147483648 ≤ v) (high : v ≤ 2147483647) :
    ∃ slot, Slot.ofInt? v = some slot ∧ slot.toInt = v :=
  ⟨Int32.ofInt v, if_pos ⟨low, high⟩, Int32.toInt_ofInt_of_le low (by omega)⟩

/-- The number that some digits give with a sign. -/
def signedValue (negative : Bool) (ds : List Char) : Int :=
  if negative then -(Nat.ofDigitChars 10 ds 0 : Int) else Nat.ofDigitChars 10 ds 0

theorem signedValue_of_natAbs {v : Int} {ds : List Char} (absolute : Nat.ofDigitChars 10 ds 0 = v.natAbs) :
    signedValue (v < 0) ds = v := by
  rw [signedValue, absolute]
  by_cases sign : v < 0
  · rw [if_pos (by simpa using sign)]
    omega
  · rw [if_neg (by simpa using sign)]
    omega

/-! ### Numbers as expressions and as items -/

section Numbers

variable (p q r u : Position) (s : Spacing) (text : String)

theorem readAll_number :
    ∃ ts, readAll (fun g => g.expr true) [.literal p ⟨.integer, text⟩] =
      .ok (.literal (.literal ⟨.integer, text⟩), ts) :=
  ⟨_, rfl⟩

theorem readAll_negative :
    ∃ ts, readAll (fun g => g.expr true) [.punct p '-' s, .literal q ⟨.integer, text⟩] =
      .ok (.unary '-' (.literal (.literal ⟨.integer, text⟩)), ts) :=
  ⟨_, rfl⟩

theorem readAll_named_number :
    ∃ ts, readAll (fun g => g.expr true) [.word p "id", .punct q '=' .alone, .literal r ⟨.integer, text⟩] =
      .ok (.assign, ts) :=
  ⟨_, rfl⟩

theorem readAll_named_negative :
    ∃ ts, readAll (fun g => g.expr true)
        [.word p "id", .punct q '=' .alone, .punct r '-' .alone, .literal u ⟨.integer, text⟩] =
      .ok (.assign, ts) :=
  ⟨_, rfl⟩

theorem nestedItems_number :
    Slot.nestedItems [.word p "id", .punct q '=' .alone, .literal r ⟨.integer, text⟩] =
      .ok [.named "id" (.value (.literal (.literal ⟨.integer, text⟩)))] :=
  rfl

theorem nestedItems_negative :
    Slot.nestedItems [.word p "id", .punct q '=' .alone, .punct r '-' .alone, .literal u ⟨.integer, text⟩] =
      .ok [.named "id" (.value (.literal (.literal ⟨.integer, "-" ++ text⟩)))] :=
  rfl

end Numbers

namespace Slot

theorem ofItems_number {l : Literal} {v : Int} (kind : l.kind = .integer) (value : l.integerValue? = some v) :
    ofItems [.named "id" (.value (.literal (.literal l)))] =
      match ofInt? v with
      | some slot => .ok slot
      | none => .error [.inField (if v < 0 then .tooSmall else .tooLarge)] := by
  have known : ("id" != fieldName) = false := rfl
  have text : l.stringValue? = none := by rw [Literal.stringValue?, kind]
  have shape : ofShape (.literal (.literal l)) = fitted v := by simp only [ofShape, text, value]
  simp only [ofItems, List.foldl_cons, List.foldl_nil, Findings.add, known, ofItemValue, shape, fitted]
  cases ofInt? v <;> rfl

end Slot

namespace SlotArgument

variable {ds : List Char}

/-- The slot of a number, or the reason why there is none. -/
def ofFitting (v : Int) (reason : String) : SlotArgument :=
  match Slot.ofInt? v with
  | some slot => id slot
  | none => malformed reason

/-- An integer alone is taken as it is, and so is one behind a minus sign. -/
theorem ofTokens_integer {text : String} {n : Int} {digits : String}
    (value : Literal.integerValue? ⟨.integer, text⟩ = some n)
    (named : Literal.decimalDigits? ⟨.integer, text⟩ = some digits) (p q : Position) :
    (∃ reason, ofTokens [.literal p ⟨.integer, text⟩] = ofFitting n reason) ∧
      ∃ reason, ofTokens [.punct p '-' .alone, .literal q ⟨.integer, text⟩] = ofFitting (-n) reason := by
  constructor
  · obtain ⟨ts, read⟩ := readAll_number p text
    simp only [ofTokens, read, integer?, value, named]
    exact ⟨_, rfl⟩
  · obtain ⟨ts, read⟩ := readAll_negative p q .alone text
    simp only [ofTokens, read, integer?, value, named]
    exact ⟨_, rfl⟩

theorem ofTokens_numeral (decimal : Digits ds) (negative : Bool) (p : Position) :
    ∃ reason, ofTokens (Token.ofNumeral p negative ds) = ofFitting (signedValue negative ds) reason := by
  obtain ⟨value, digits⟩ := Literal.integerValue?_decimal decimal
  cases negative with
  | true => exact (ofTokens_integer value digits p (p.next '-')).2
  | false => exact (ofTokens_integer value digits p p).1

theorem ofNamedForm_number {ts : List Token} {l : Literal} {v : Int}
    (items : Slot.nestedItems ts = .ok [.named "id" (.value (.literal (.literal l)))])
    (kind : l.kind = .integer) (value : l.integerValue? = some v) :
    ∃ reason, ofNamedForm ts = ofFitting v reason := by
  rw [ofNamedForm, Slot.ofNamedForm, items]
  simp only [Slot.ofItems_number kind value, ofFitting]
  cases Slot.ofInt? v with
  | some slot => exact ⟨"", rfl⟩
  | none => exact ⟨_, rfl⟩

theorem ofTokens_named (decimal : Digits ds) (negative : Bool) (p q r : Position) :
    ∃ reason, ofTokens (.word p "id" :: .punct q '=' .alone :: Token.ofNumeral r negative ds) =
      ofFitting (signedValue negative ds) reason := by
  cases negative with
  | true =>
    obtain ⟨ts, read⟩ := readAll_named_negative p q r (r.next '-') (String.ofList ds)
    rw [Token.ofNumeral, if_pos rfl]
    simp only [ofTokens, read, integer?]
    exact ofNamedForm_number (nestedItems_negative p q r (r.next '-') _) rfl
      (Literal.integerValue?_minus_decimal decimal)
  | false =>
    obtain ⟨ts, read⟩ := readAll_named_number p q r (String.ofList ds)
    rw [Token.ofNumeral, if_neg (by simp)]
    simp only [ofTokens, read, integer?]
    exact ofNamedForm_number (nestedItems_number p q r _) rfl (Literal.integerValue?_decimal decimal).1

/-- The text is one mark, which gives the slot of the number if it is one, and no slot if it is none. -/
def Marks (text : String) (v : Int) : Prop :=
  ∃ a ts, readText outerAttributes text = .ok ([a], ts) ∧ a.isMark = true ∧
    (-2147483648 ≤ v ∧ v ≤ 2147483647 → ∃ slot : Int32, slot.toInt = v ∧ ofAttribute a = id slot) ∧
    (¬(-2147483648 ≤ v ∧ v ≤ 2147483647) → ∃ reason, ofAttribute a = malformed reason)

theorem marks_of_fitting {text reason : String} {v : Int} {inner : List Token}
    (lexed : Token.ofString? text = some (Token.ofMark inner)) (taken : ofTokens inner = ofFitting v reason) :
    Marks text v := by
  obtain ⟨a, ts, read, isMark, argument⟩ := readAll_ofMark inner
  have given : ofAttribute a = ofFitting v reason := by
    rw [ofAttribute, argument]
    exact taken
  refine ⟨a, ts, by rw [readText, lexed]; exact read, isMark, ?_, ?_⟩
  · rintro ⟨low, high⟩
    obtain ⟨slot, fits, same⟩ := Slot.ofInt?_of_fits low high
    exact ⟨slot, same, by rw [given, ofFitting, fits]⟩
  · intro outside
    exact ⟨reason, by rw [given, ofFitting, Slot.ofInt?, if_neg outside]⟩

/-- Both marks with a number in base ten give the same. -/
theorem decimal_marks_agree {v : Int} {text : String} (decimal : Decimal v text) :
    Marks ("#[bind(" ++ text ++ ")]") v ∧ Marks ("#[bind(id = " ++ text ++ ")]") v := by
  obtain ⟨ds, digits, absolute, chars⟩ := decimal
  obtain ⟨positional, named⟩ := Token.ofString?_marks digits (v < 0) (by simpa using chars)
  obtain ⟨_, alone⟩ := ofTokens_numeral digits (v < 0) ⟨1, 7⟩
  obtain ⟨_, behindName⟩ := ofTokens_named digits (v < 0) ⟨1, 7⟩ ⟨1, 10⟩ ⟨1, 12⟩
  rw [signedValue_of_natAbs absolute] at alone behindName
  exact ⟨marks_of_fitting positional alone, marks_of_fitting named behindName⟩

/-- Both ends of the range, the numbers next to them, and a number with zeros in front. -/
theorem decimal_marks_agree_at_ends :
    (∀ v ∈ [-2147483649, -2147483648, -1, 0, 2147483647, 2147483648, 4294967296],
      Decimal v (toString v) ∧
        Marks ("#[bind(" ++ toString v ++ ")]") v ∧ Marks ("#[bind(id = " ++ toString v ++ ")]") v) ∧
    Decimal (-7) "-007" ∧ Marks ("#[bind(" ++ "-007" ++ ")]") (-7) ∧
      Marks ("#[bind(id = " ++ "-007" ++ ")]") (-7) := by
  have padded : Decimal (-7) "-007" := ⟨['0', '0', '7'], ⟨by simp, by simp⟩, rfl, rfl⟩
  exact ⟨fun v _ => ⟨decimal_toString v, decimal_marks_agree (decimal_toString v)⟩, padded,
    decimal_marks_agree padded⟩

end SlotArgument

end SlotBinding
