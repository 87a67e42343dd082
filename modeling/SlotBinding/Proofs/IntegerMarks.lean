import SlotBinding.Proofs.BinderReading
import SlotBinding.Proofs.DecimalMarks
import SlotBinding.Proofs.InjectionBody

/-!
# Marks with an integer in any base

`integer_marks`: a mark with an integer literal, perhaps behind a minus sign, gives the slot of its value if this is
one, and the literal that is generated for a slot gives the slot back.
-/

namespace SlotBinding

inductive Sign
  | none
  /-- A minus sign, perhaps with blanks behind it. -/
  | minus (blanks : Nat)

namespace Sign

def text : Sign → List Char
  | none => []
  | minus blanks => '-' :: List.replicate blanks ' '

def of (n : Nat) : Sign → Int
  | none => n
  | minus _ => -(n : Int)

def tokens (p : Position) : Sign → List Token
  | none => []
  | minus _ => [.punct p '-' .alone]

end Sign

namespace Token

namespace Reading

variable {p : Position} {groups : List OpenGroup} {ts : List Token}

theorem run_blanks (blanks n : Nat) (cs : List Char) :
    run (n + blanks) ⟨List.replicate blanks ' ' ++ cs, p, groups, ts⟩ =
      run n ⟨cs, p.advance (List.replicate blanks ' '), groups, ts⟩ := by
  induction blanks generalizing p with
  | zero => rfl
  | succ blanks ih => exact ih

theorem run_sign (s : Sign) {c : Char} (digit : c.isDigit = true) (n : Nat) (cs : List Char) :
    run (n + s.text.length) ⟨s.text ++ c :: cs, p, groups, ts⟩ =
      run n ⟨c :: cs, p.advance s.text, groups, s.tokens p ++ ts⟩ := by
  cases s with
  | none => rfl
  | minus blanks =>
    have minus : run (n + blanks + 1) ⟨'-' :: (List.replicate blanks ' ' ++ c :: cs), p, groups, ts⟩ =
        run (n + blanks) ⟨List.replicate blanks ' ' ++ c :: cs, p.next '-', groups, .punct p '-' .alone :: ts⟩ := by
      cases blanks with
      | zero =>
        have one : Digits [c] := ⟨by simp, by simpa using digit⟩
        exact step_minus one cs n
      | succ blanks => rfl
    have length : (Sign.minus blanks).text.length = blanks + 1 := by simp [Sign.text]
    rw [length]
    exact minus.trans (run_blanks blanks n (c :: cs))

end Reading

/-- The tokens of a mark with a literal, where the sign and the literal stand between the parentheses. -/
theorem ofString?_integer (s : Sign) (l : Numeral) :
    ofString? ("#[bind(" ++ String.ofList (s.text ++ l.text) ++ ")]") =
      some (ofMark (s.tokens ⟨1, 7⟩ ++
        [.literal (Position.advance ⟨1, 7⟩ s.text) ⟨.integer, String.ofList l.text⟩])) := by
  have front : "#[bind(".toList = '#' :: ['[', 'b', 'i', 'n', 'd', '('] := rfl
  have closing : ")]".toList = [')', ']'] := rfl
  obtain ⟨c, others, chars, digit⟩ := l.exists_text
  have whole : s.text ++ l.text ++ [')', ']'] = s.text ++ c :: (others ++ [')', ']']) := by
    rw [List.append_assoc, chars, List.cons_append]
  have plain : (s.text ++ l.text ++ [')', ']']).head? ≠ some '/' := by
    rw [whole]
    cases s with
    | none =>
      intro slash
      obtain rfl : c = '/' := Option.some.inj slash
      exact absurd digit (by decide)
    | minus => simp [Sign.text]
  -- Four steps lead to the inside of the parentheses, and three behind the literal to the end.
  have fuel : (String.ofList (s.text ++ l.text)).length +
      (['[', 'b', 'i', 'n', 'd', '('].length + [')', ']'].length) + 2 =
      l.text.length + 5 + 1 + s.text.length + 4 := by
    simp only [← String.length_toList, String.toList_ofList, List.length_append, List.length_cons, List.length_nil]
    omega
  have inner : (String.ofList (s.text ++ l.text)).toList = s.text ++ l.text := String.toList_ofList
  rw [ofString?_of_mark front closing, fuel, ← front, inner, Reading.run_positional _ plain, whole,
    Reading.run_sign s digit, ← List.cons_append, ← chars, Reading.run_integer, Reading.run_close]
  cases s <;> rfl

end Token

namespace SlotArgument

open Syntax Grammar

/-- A mark with a literal, whatever its base and its sign, is about the number that the literal stands for. -/
theorem marks_of_numeral (s : Sign) (l : Numeral) :
    Marks ("#[bind(" ++ String.ofList (s.text ++ l.text) ++ ")]") (s.of l.value) := by
  have lexed := Token.ofString?_integer s l
  obtain ⟨value, digits⟩ := Literal.integerValue?_numeral l
  obtain ⟨⟨_, plain⟩, _, negative⟩ :=
    ofTokens_integer value digits ⟨1, 7⟩ (Position.advance ⟨1, 7⟩ s.text)
  cases s with
  | none => exact marks_of_fitting lexed plain
  | minus => exact marks_of_fitting lexed negative

def Gives (text : String) (slot : Int32) : Prop :=
  ∃ a ts, readText outerAttributes text = .ok ([a], ts) ∧ a.isMark = true ∧ ofAttribute a = id slot

theorem Marks.gives {text : String} {slot : Int32} (marks : Marks text slot.toInt) : Gives text slot := by
  obtain ⟨a, ts, read, isMark, fits, -⟩ := marks
  obtain ⟨same, value, given⟩ := fits ⟨Int32.le_toInt slot, Int32.toInt_le slot⟩
  obtain rfl : same = slot := Int32.toInt_inj.mp value
  exact ⟨a, ts, read, isMark, given⟩

end SlotArgument

/-! ### The literals of generated statements -/

/-- What is generated for a slot is a literal in base ten, behind a sign if the slot is negative. -/
theorem Renderer.exists_numeral (slot : Int32) :
    ∃ (s : Sign) (l : Numeral),
      slotLiteral slot = String.ofList (s.text ++ l.text) ∧ s.of l.value = slot.toInt := by
  let l := Numeral.decimal (digits_of_toDigits slot.toInt.natAbs) (IntegerLiteral.isSuffix_i32 _)
  have value : l.value = slot.toInt.natAbs :=
    (Numeral.value_decimal _ _).trans (Nat.ofDigitChars_toDigits (by decide) (by decide))
  have chars := toList_slotLiteral slot
  by_cases negative : slot.toInt < 0
  · refine ⟨.minus 1, l, ?_, ?_⟩
    · rw [if_pos negative] at chars
      exact String.toList_inj.mp (chars.trans String.toList_ofList.symm)
    · rw [Sign.of, value]
      omega
  · refine ⟨.none, l, ?_, ?_⟩
    · rw [if_neg negative] at chars
      exact String.toList_inj.mp (chars.trans String.toList_ofList.symm)
    · rw [Sign.of, value]
      omega

namespace SlotArgument

/-- Positional slots are read by value, and the literals of generated statements give their slots back. -/
theorem integer_marks :
    (∀ (s : Sign) (l : Numeral), Marks ("#[bind(" ++ String.ofList (s.text ++ l.text) ++ ")]") (s.of l.value)) ∧
      ∀ slot : Int32, Gives ("#[bind(" ++ Renderer.slotLiteral slot ++ ")]") slot := by
  refine ⟨marks_of_numeral, fun slot => ?_⟩
  obtain ⟨s, l, text, value⟩ := Renderer.exists_numeral slot
  apply Marks.gives
  rw [text, ← value]
  exact marks_of_numeral s l

/-- The least slot in base sixteen with underscores and a suffix, the number above the greatest one in base eight, and
a number in base two. -/
theorem integer_marks_in_other_bases :
    Gives "#[bind(-0x8000_0000u8)]" (-2147483648) ∧ Marks "#[bind(0o20_000_000_000)]" 2147483648 ∧
      Gives "#[bind(0b_1010isize)]" 10 := by
  let least : Numeral :=
    { base := .hexadecimal, body := ['8', '0', '0', '0', '_', '0', '0', '0', '0'], digits := [8, 0, 0, 0, 0, 0, 0, 0]
      suffix := ['u', '8'], spells := by repeat' (first | decide | constructor)
      nonempty := by simp, front := by simp
      ending := IntegerLiteral.isSuffix_of_isWord (by decide) (by decide) (by decide) _ _ }
  let large : Numeral :=
    { base := .octal, body := "20_000_000_000".toList, digits := [2, 0, 0, 0, 0, 0, 0, 0, 0, 0, 0]
      suffix := [], spells := by repeat' (first | decide | constructor)
      nonempty := by simp, front := by simp, ending := IntegerLiteral.isSuffix_nil _ _ }
  let ten : Numeral :=
    { base := .binary, body := ['_', '1', '0', '1', '0'], digits := [1, 0, 1, 0], suffix := "isize".toList
      spells := by repeat' (first | decide | constructor)
      nonempty := by simp, front := by simp
      ending := IntegerLiteral.isSuffix_of_isWord (by decide) (by decide) (by decide) _ _ }
  have low := integer_marks.1 (.minus 0) least
  have high := integer_marks.1 .none large
  have even := integer_marks.1 .none ten
  have lowText :
      "#[bind(" ++ String.ofList ((Sign.minus 0).text ++ least.text) ++ ")]" = "#[bind(-0x8000_0000u8)]" := by
    decide
  have highText : "#[bind(" ++ String.ofList (Sign.none.text ++ large.text) ++ ")]" = "#[bind(0o20_000_000_000)]" := by
    decide
  have evenText : "#[bind(" ++ String.ofList (Sign.none.text ++ ten.text) ++ ")]" = "#[bind(0b_1010isize)]" := by
    decide
  have lowValue : (Sign.minus 0).of least.value = Int32.toInt (-2147483648) := by decide
  have highValue : Sign.none.of large.value = 2147483648 := by decide
  have evenValue : Sign.none.of ten.value = Int32.toInt 10 := by decide
  rw [lowText, lowValue] at low
  rw [highText, highValue] at high
  rw [evenText, evenValue] at even
  exact ⟨low.gives, high, even.gives⟩

end SlotArgument

end SlotBinding
