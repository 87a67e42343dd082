import SlotBinding.Token.Lexer
import SlotBinding.Token.Unquote

/-!
# String literals are read back

`readsAs_literal`: what `Text.Quoted.literal` writes for a text is one token, a string literal whose value
is the text. One lemma about an escaped character for the lexer and one for the decoder carry it.
-/

namespace SlotBinding

theorem IntegerLiteral.digitValue?_digitChar {d : Nat} (small : d < 16) :
    digitValue? d.digitChar = some d := by
  revert d
  decide

namespace Literal

theorem hexValue_append (cs : List Char) (c : Char) :
    hexValue (cs ++ [c]) = hexValue cs * 16 + (IntegerLiteral.digitValue? c).getD 0 := by
  simp [hexValue]

theorem hexValue_toDigits (n : Nat) : hexValue (Nat.toDigits 16 n) = n := by
  induction n using Nat.strongRecOn with
  | _ n ih =>
    rw [Nat.toDigits_eq_if (by decide)]
    split
    · rename_i small
      simp [hexValue, IntegerLiteral.digitValue?_digitChar small]
    · rename_i large
      have last : n % 16 < 16 := Nat.mod_lt n (by decide)
      rw [hexValue_append, ih (n / 16) (by omega), IntegerLiteral.digitValue?_digitChar last]
      exact Nat.div_add_mod' n 16

end Literal

def HexDigits (cs : List Char) : Prop := ∀ c ∈ cs, ∃ d, IntegerLiteral.digitValue? c = some d

theorem hexDigits_toDigits (n : Nat) : HexDigits (Nat.toDigits 16 n) := by
  induction n using Nat.strongRecOn with
  | _ n ih =>
    rw [Nat.toDigits_eq_if (by decide)]
    split
    · rename_i small
      intro c member
      obtain rfl := List.mem_singleton.mp member
      exact ⟨n, IntegerLiteral.digitValue?_digitChar small⟩
    · rename_i large
      intro c member
      rcases List.mem_append.mp member with front | last
      · exact ih (n / 16) (by omega) c front
      · obtain rfl := List.mem_singleton.mp last
        exact ⟨n % 16, IntegerLiteral.digitValue?_digitChar (Nat.mod_lt n (by decide))⟩

namespace Text.Quoted

/-- A one-letter escape, the character itself, or its code point. -/
theorem escape_cases (c : Char) :
    (∃ x, escape c = ['\\', x] ∧ Spelling.isSimpleEscape .text x = true ∧ x ≠ 'x' ∧ x ≠ 'u' ∧
      Literal.simpleEscape x = c) ∨
    (escape c = [c] ∧ c ≠ '"' ∧ c ≠ '\\' ∧ c ≠ '\r') ∨
    escape c = codePoint c := by
  unfold escape
  split
  case h_7 _ _ noReturn _ noSlash noQuote =>
    split
    · exact .inr (.inl ⟨rfl, noQuote, noSlash, noReturn⟩)
    · exact .inr (.inr rfl)
  all_goals exact .inl ⟨_, rfl, rfl, by decide, by decide, rfl⟩

end Text.Quoted

namespace Literal

open Text.Quoted (escape codePoint literalChars startsOctal)

theorem decode_braced {ds : List Char} (hex : HexDigits ds) (read rest : List Char) :
    decode (.braced read) (ds ++ '\x7d' :: rest) =
      Char.ofNat (hexValue (read ++ ds)) :: decode .plain rest := by
  induction ds generalizing read with
  | nil => simp [decode]
  | cons c more ih =>
    obtain ⟨d, digit⟩ := hex c List.mem_cons_self
    have close : c ≠ '\x7d' := by rintro rfl; cases digit
    have open' : c ≠ '\x7b' := by rintro rfl; cases digit
    have underscore : c ≠ '_' := by rintro rfl; cases digit
    rw [List.cons_append, decode]
    simp only [beq_iff_eq, close, open', underscore, if_false, Bool.or_eq_true, or_self]
    rw [ih (fun x member => hex x (List.mem_cons_of_mem _ member)), List.append_assoc,
      List.singleton_append]

theorem decode_escape (c : Char) (rest : List Char) :
    decode .plain (escape c ++ rest) = c :: decode .plain rest := by
  obtain ⟨x, short, simple, noHex, noCode, value⟩ | ⟨same, noQuote, noSlash, noReturn⟩ | number :=
    Text.Quoted.escape_cases c
  · have noBreak : x ≠ '\n' ∧ x ≠ '\r' := by
      constructor <;> (rintro rfl; cases simple)
    simp [short, decode, noHex, noCode, noBreak, value]
  · simp [same, decode, noQuote, noSlash, noReturn]
  · have digits := decode_braced (hexDigits_toDigits c.toNat) [] rest
    rw [List.nil_append, hexValue_toDigits, Char.ofNat_toNat] at digits
    simpa [number, codePoint, decode] using digits

theorem decode_literalChars (cs rest : List Char) :
    decode .plain (literalChars cs ++ '"' :: rest) = cs := by
  induction cs with
  | nil => simp [literalChars, decode]
  | cons c more ih =>
    rw [literalChars]
    split
    · rename_i nul
      simp only [Bool.and_eq_true, beq_iff_eq] at nul
      obtain ⟨rfl, _⟩ := nul
      simp only [List.cons_append, List.nil_append, decode] at ih ⊢
      simp [ih, hexValue, IntegerLiteral.digitValue?]
    · rw [List.append_assoc, decode_escape, ih]

end Literal

/-! ### The lexer -/

namespace Spelling

open Text.Quoted (escape codePoint literalChars startsOctal)

variable {content : Content} {mode next : Mode}

theorem after_after (p : Option Piece) (front more : List Char) :
    (p.map (Piece.after more)).map (Piece.after front) = p.map (Piece.after (front ++ more)) := by
  cases p with
  | none => rfl
  | some p => simp [Piece.after]

theorem quoted_cons {c : Char} (moves : step content mode c = some (some next)) (rest : List Char) :
    quoted content mode (c :: rest) = (quoted content next rest).map (Piece.after [c]) := by
  rw [quoted, moves]
  rfl

theorem quoted_codePoint {ds : List Char} (hex : HexDigits ds) {value count : Nat}
    (few : count + ds.length ≤ 6) (some' : 0 < count + ds.length)
    (scalar : isScalar (ds.foldl (fun n c => n * 16 + (IntegerLiteral.digitValue? c).getD 0) value) = true)
    (rest : List Char) :
    quoted .text (.codePoint value count) (ds ++ '\x7d' :: rest) =
      (quoted .text .plain rest).map (Piece.after (ds ++ ['\x7d'])) := by
  induction ds generalizing value count with
  | nil =>
    have counted : count ≠ 0 := by simpa using Nat.pos_iff_ne_zero.mp some'
    have brace : IntegerLiteral.digitValue? '\x7d' = none := by decide
    have ends : step .text (.codePoint value count) '\x7d' = some (some .plain) := by
      have number : isScalar value = true := scalar
      simp [step, codePointStep, brace, counted, number]
    exact quoted_cons ends rest
  | cons c more ih =>
    obtain ⟨d, digit⟩ := hex c List.mem_cons_self
    rw [List.length_cons] at few
    have room : count ≠ 6 := by omega
    have moves : step .text (.codePoint value count) c =
        some (some (.codePoint (value * 16 + d) (count + 1))) := by
      simp [step, codePointStep, digit, room]
    rw [List.foldl_cons, digit, Option.getD_some] at scalar
    rw [List.cons_append, quoted_cons moves,
      ih (fun x member => hex x (List.mem_cons_of_mem _ member)) (by omega) (by omega) scalar,
      after_after]
    rfl

theorem isScalar_toNat (c : Char) : isScalar c.toNat = true := by
  have valid := c.valid
  simp only [UInt32.isValidChar, Nat.isValidChar] at valid
  simp only [isScalar, Char.toNat, Bool.or_eq_true, Bool.and_eq_true, decide_eq_true_eq]
  omega

theorem toDigits_length_le (c : Char) : (Nat.toDigits 16 c.toNat).length ≤ 6 := by
  have scalar := isScalar_toNat c
  simp only [isScalar, Bool.or_eq_true, Bool.and_eq_true, decide_eq_true_eq] at scalar
  exact (Nat.length_toDigits_le_iff (by decide) (by decide)).mpr (by omega)

theorem quoted_escape (c : Char) (rest : List Char) :
    quoted .text .plain (escape c ++ rest) = (quoted .text .plain rest).map (Piece.after (escape c)) := by
  have enters : step .text .plain '\\' = some (some .escape) := rfl
  obtain ⟨x, short, simple, -⟩ | ⟨same, noQuote, noSlash, noReturn⟩ | number :=
    Text.Quoted.escape_cases c
  · have leaves : step .text .escape x = some (some .plain) := by simp [step, simple]
    rw [short, List.cons_append, List.cons_append, List.nil_append, quoted_cons enters,
      quoted_cons leaves, after_after]
    rfl
  · have stays : step .text .plain c = some (some .plain) := by
      simp [step, plainStep, noQuote, noSlash, noReturn]
    rw [same, List.singleton_append, quoted_cons stays]
  · have few := toDigits_length_le c
    have many : 0 < (Nat.toDigits 16 c.toNat).length := Nat.length_toDigits_pos
    have scalar : isScalar (Literal.hexValue (Nat.toDigits 16 c.toNat)) = true := by
      rw [Literal.hexValue_toDigits]
      exact isScalar_toNat c
    have digits : quoted .text (.codePoint 0 0) (Nat.toDigits 16 c.toNat ++ '\x7d' :: rest) = _ :=
      quoted_codePoint (hexDigits_toDigits c.toNat) (by omega) (by omega) scalar rest
    have names : step .text .escape 'u' = some (some .openBrace) := rfl
    have opens : step .text .openBrace '\x7b' = some (some (.codePoint 0 0)) := rfl
    rw [number]
    simp only [codePoint, List.cons_append, List.append_assoc, List.nil_append]
    rw [quoted_cons enters, quoted_cons names, quoted_cons opens, digits, after_after, after_after,
      after_after]
    rfl

theorem quoted_literalChars (cs rest : List Char) :
    quoted .text .plain (literalChars cs ++ '"' :: rest) = some (literalChars cs ++ ['"'], rest) := by
  induction cs with
  | nil => rfl
  | cons c more ih =>
    rw [literalChars]
    split
    · have enters : step .text .plain '\\' = some (some .escape) := rfl
      have names : step .text .escape 'x' = some (some .hexHigh) := rfl
      have high : step .text .hexHigh '0' = some (some (.hexLow '0')) := rfl
      have low : step .text (.hexLow '0') '0' = some (some .plain) := rfl
      simp only [List.cons_append, List.nil_append]
      rw [quoted_cons enters, quoted_cons names, quoted_cons high, quoted_cons low, ih]
      rfl
    · rw [List.append_assoc, quoted_escape, ih]
      simp [Piece.after]

end Spelling

/-- The source is one token, a string literal, and the text is its value. -/
def ReadsAs (source text : String) : Prop :=
  ∃ l : Literal, Token.ofString? source = some [.literal .first l] ∧ l.stringValue? = some text

theorem stringValue?_literal (s : String) :
    Literal.stringValue? ⟨.string, Text.Quoted.literal s⟩ = some s := by
  simp [Literal.stringValue?, Text.Quoted.literal, Literal.decodeLiteral, Literal.decode_literalChars]

theorem leaf_literal (s : String) (p : Position) :
    Token.Reading.leaf ⟨(Text.Quoted.literal s).toList, p, [], []⟩ =
      some ⟨[], p.advance (Text.Quoted.literal s).toList, [],
        [.literal p ⟨.string, Text.Quoted.literal s⟩]⟩ := by
  have inside := Spelling.quoted_literalChars s.toList []
  have whole : Spelling.quotedLiteral ('"' :: (Text.Quoted.literalChars s.toList ++ ['"'])) =
      some (.string, '"' :: (Text.Quoted.literalChars s.toList ++ ['"']), []) := by
    simp [Spelling.quotedLiteral, inside, Spelling.Piece.after]
  simp [Token.Reading.leaf, Spelling.literal, Text.Quoted.literal, whole, Spelling.withSuffix,
    Spelling.bareWord, Token.Reading.past]

theorem readsAs_literal (s : String) : ReadsAs (Text.Quoted.literal s) s := by
  refine ⟨_, ?_, stringValue?_literal s⟩
  have chars : (Text.Quoted.literal s).toList = '"' :: (Text.Quoted.literalChars s.toList ++ ['"']) := by
    simp [Text.Quoted.literal]
  have leaf := leaf_literal s .first
  rw [Token.ofString?]
  rw [chars] at leaf ⊢
  have first : ∀ inside : List Char,
      Token.Reading.step ⟨'"' :: inside, .first, [], []⟩ '"' inside =
        Token.Reading.leaf ⟨'"' :: inside, .first, [], []⟩ := fun inside => rfl
  simp [Token.ofChars?, Token.ofCharsAt?, Token.Reading.run, first, leaf]

end SlotBinding
