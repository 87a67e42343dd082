import SlotBinding.Proofs.DerivedPath

/-!
# What readers respect

A property of lists of trees is hereditary if it passes to what readers take from such lists and to what they put
together of it. `Respects` says of a reader that such a property stays with what is read, with what is left and with
what is written; its instances say it of the readers from which the grammar is put together. Two hereditary properties
are used: `Token.Lexed`, and the one of all trees, by which readers go forward in their input (`Advances`).
-/

namespace SlotBinding

namespace Token

/-- The token begins like a word, and no quote follows the first character. -/
def StartsWord (t : Token) : Prop :=
  ∃ c rest, t.text.toList = c :: rest ∧ Unicode.isIdentifierStart c = true ∧ rest.head? ≠ some '\''

theorem not_startsWord_punct {p : Position} {c : Char} {s : Spacing} (other : Unicode.isIdentifierStart c = false) :
    ¬(Token.punct p c s).StartsWord := by
  rintro ⟨d, rest, chars, start, -⟩
  have single : (Token.punct p c s).text.toList = [c] := by simp [Token.text]
  obtain rfl := (List.cons.inj (single.symm.trans chars)).1
  rw [other] at start
  cases start

theorem not_startsWord_group (p : Position) (d : Delimiter) (inner : List Token) :
    ¬(Token.group p d inner).StartsWord := by
  rintro ⟨c, rest, chars, start, -⟩
  have opens : (openText d).toList.head? = some c := by
    rw [Token.text, String.toList_append, String.toList_append, String.toList_append] at chars
    have head := congrArg List.head? chars
    cases d <;> simpa [openText] using head
  have other : (openText d).toList.head?.any Unicode.isIdentifierStart = false := by
    cases d <;> decide
  rw [opens, Option.any_some, start] at other
  cases other

end Token

/-- A property of lists of trees that passes to what readers take from them and to what they write of it. -/
class Hereditary (B : List Token → Prop) : Prop where
  nil : B []
  append {l r : List Token} : B l → B r → B (l ++ r)
  behind {l r : List Token} : B (l ++ r) → B r
  front {t : Token} {ts us : List Token} : B (ts ++ t :: us) → ¬t.StartsWord → B ts
  word {p : Position} {w : String} {ts : List Token} : B (.word p w :: ts) → ∀ q, B [.word q w]
  sign {p : Position} {c : Char} {s : Spacing} {ts : List Token} :
    B (.punct p c s :: ts) → c ≠ '\'' → ∀ q r, B [.punct q c r]
  lifetime {p q : Position} {w : String} {ts : List Token} :
    B (.punct p '\'' .joint :: .word q w :: ts) → ∀ p q, B [.punct p '\'' .joint, .word q w]
  literal {p : Position} {l : Literal} {ts : List Token} :
    B (.literal p l :: ts) → B [.literal p l] ∧ B (Token.ofLiteral l)
  negative {p : Position} {l : Literal} {ts : List Token} :
    B (.literal p l :: ts) → B (Token.ofLiteral { l with text := "-" ++ l.text })
  number (n : Int) : B (Token.ofLiteral ⟨.integer, toString n⟩)
  inside {p : Position} {d : Delimiter} {inner ts : List Token} : B (.group p d inner :: ts) → B inner
  group {inner : List Token} : B inner → ∀ p d, B [.group p d inner]
  mark {c : Char} : c ∈ [',', ':', '<', '>', '.', '='] → ∀ s, B [.punct .unknown c s]
  hole : B [.ofWord "_"]

namespace Token

abbrev Any : List Token → Prop := fun _ => True

instance : Hereditary Any where
  nil := trivial
  append _ _ := trivial
  behind _ := trivial
  front _ _ := trivial
  word _ _ := trivial
  sign _ _ _ _ := trivial
  lifetime _ _ _ := trivial
  literal _ := ⟨trivial, trivial⟩
  negative _ := trivial
  number _ := trivial
  inside _ := trivial
  group _ _ _ := trivial
  mark _ _ := trivial
  hole := trivial

end Token

namespace Syntax

open SlotBinding.Syntax.Parser

variable {α β : Type} {B : List Token → Prop} {base : List Token}

/-! ### Values -/

/-- The input was come to from these tokens: what was read, what is left and what was written have the property. -/
structure Input.From (B : List Token → Prop) (base : List Token) (s : Input) : Prop where
  read : ∃ ts, base = ts ++ s.rest ∧ B ts
  rest : B s.rest
  written : B s.written.reverse

/-- What it is for a value to hold nothing but tokens that have a property. -/
class Bearing (α : Type) where
  Holds : (List Token → Prop) → List Token → α → Prop

/-- Most values hold no tokens that are written again. -/
instance (priority := low) bearingNothing (α : Type) : Bearing α := ⟨fun _ _ _ => True⟩

instance [Bearing α] [Bearing β] : Bearing (α × β) :=
  ⟨fun B base x => Bearing.Holds B base x.1 ∧ Bearing.Holds B base x.2⟩

instance [Bearing α] : Bearing (Option α) := ⟨fun B base x => ∀ a ∈ x, Bearing.Holds B base a⟩

instance [Bearing α] : Bearing (List α) := ⟨fun B base as => ∀ a ∈ as, Bearing.Holds B base a⟩

instance : Bearing (List Token) := ⟨fun B _ ts => B ts⟩

/-- A word with its place. -/
instance : Bearing (Position × String) := ⟨fun B _ w => B [.word w.1 w.2]⟩

instance : Bearing Input := ⟨Input.From⟩

/-- The value holds nothing but tokens that have the property. -/
class Bears (B : List Token → Prop) (base : List Token) [Bearing α] (a : α) : Prop where
  holds : Bearing.Holds B base a

/-- A value that a reader gave, which the next one may go on with. -/
structure Borne (B : List Token → Prop) (base : List Token) (α : Type) [Bearing α] where
  val : α
  holds : Bearing.Holds B base val

/-- What the value holds does not depend on where the input began. -/
class Unbased (α : Type) [Bearing α] : Prop where
  holds : ∀ {B : List Token → Prop} {base other : List Token} {a : α},
    Bearing.Holds B base a → Bearing.Holds B other a

instance : @Unbased α (bearingNothing α) := ⟨fun _ => trivial⟩

instance : Unbased (List Token) := ⟨id⟩

instance : Unbased (Position × String) := ⟨id⟩

instance (a : α) : @Bears α B base (bearingNothing α) a := ⟨trivial⟩

class Bare (α : Type) [Bearing α] : Prop where
  holds : ∀ {B : List Token → Prop} {base : List Token} (a : α), Bearing.Holds B base a

instance : @Bare α (bearingNothing α) := ⟨fun _ => trivial⟩

section

variable [Bearing α] [Bearing β]

instance [Bare α] [Bare β] : Bare (α × β) := ⟨fun x => ⟨Bare.holds x.1, Bare.holds x.2⟩⟩

instance [Bare α] : Bare (Option α) := ⟨fun _ a _ => Bare.holds a⟩

instance [Bare α] : Bare (List α) := ⟨fun _ a _ => Bare.holds a⟩

instance (priority := low) [Bare α] (a : α) : Bears B base a := ⟨Bare.holds a⟩

instance [Unbased α] [Unbased β] : Unbased (α × β) := ⟨fun h => ⟨Unbased.holds h.1, Unbased.holds h.2⟩⟩

instance [Unbased α] : Unbased (Option α) := ⟨fun h a member => Unbased.holds (h a member)⟩

instance [Unbased α] : Unbased (List α) := ⟨fun h a member => Unbased.holds (h a member)⟩

instance (a : Borne B base α) : Bears B base a.val := ⟨a.holds⟩

instance (a : α) (b : β) [left : Bears B base a] [right : Bears B base b] : Bears B base (a, b) :=
  ⟨left.holds, right.holds⟩

instance (x : α × β) [bears : Bears B base x] : Bears B base x.1 := ⟨bears.holds.1⟩

instance (x : α × β) [bears : Bears B base x] : Bears B base x.2 := ⟨bears.holds.2⟩

instance : Bears B base (none : Option α) := ⟨by simp [Bearing.Holds]⟩

instance (a : α) [bears : Bears B base a] : Bears B base (some a) :=
  ⟨fun _ member => Option.mem_some_iff.mp member ▸ bears.holds⟩

instance : Bears B base ([] : List α) := ⟨by simp [Bearing.Holds]⟩

instance (a : α) (as : List α) [first : Bears B base a] [rest : Bears B base as] : Bears B base (a :: as) :=
  ⟨List.forall_mem_cons.mpr ⟨first.holds, rest.holds⟩⟩

instance (as bs : List α) [left : Bears B base as] [right : Bears B base bs] : Bears B base (as ++ bs) :=
  ⟨fun a member => (List.mem_append.mp member).elim (left.holds a) (right.holds a)⟩

instance (c : Prop) [Decidable c] (a b : α) [yes : Bears B base a] [no : Bears B base b] :
    Bears B base (if c then a else b) := by
  split <;> assumption

end

section

variable [Hereditary B] {ts us : List Token}

instance : Bears B base ([] : List Token) := ⟨Hereditary.nil⟩

instance [left : Bears B base ts] [right : Bears B base us] : Bears B base (ts ++ us) :=
  ⟨Hereditary.append left.holds right.holds⟩

instance (d : Delimiter) [inside : Bears B base ts] : Bears B base [Token.ofGroup d ts] :=
  ⟨Hereditary.group inside.holds _ d⟩

instance : Bears B base (Token.ofWord "_" :: Token.ofOperator [':']) :=
  ⟨Hereditary.append (l := [_]) Hereditary.hole (Hereditary.mark (by simp) _)⟩

theorem bears_mark {c : Char} (among : c ∈ [',', ':', '<', '>', '.', '=']) :
    Bears B base (Token.ofOperator [c]) :=
  ⟨Hereditary.mark among _⟩

instance : Bears B base (Token.ofOperator [',']) := bears_mark (by simp)

instance : Bears B base (Token.ofOperator ['<']) := bears_mark (by simp)

instance : Bears B base (Token.ofOperator ['>']) := bears_mark (by simp)

instance : Bears B base (Token.ofOperator ['.']) := bears_mark (by simp)

instance (n : Int) : Bears B base (Token.ofLiteral ⟨.integer, toString n⟩) := ⟨Hereditary.number n⟩

instance : Bears B base (Token.ofOperator ['.', '.', '=']) :=
  ⟨Hereditary.append (l := [_, _])
    (Hereditary.append (l := [_]) (Hereditary.mark (by simp) _) (Hereditary.mark (by simp) _))
    (Hereditary.mark (by simp) _)⟩

end

/-! ### Putting readers together -/

/-- Where the property holds of what was read, of what is left and of what was written, it goes on to hold of them
and of what the reader gives. -/
class Respects (B : List Token → Prop) (base : List Token) [Bearing α] (p : Parser α) : Prop where
  run : ∀ {s : Input} {a : α} {s' : Input}, s.From B base → p s = .ok (a, s') →
    s'.From B base ∧ Bearing.Holds B base a

section

variable [Bearing α] [Bearing β]

instance respects_pure (a : α) [bears : Bears B base a] : Respects B base (pure a : Parser α) where
  run sound ran := by
    cases ran
    exact ⟨sound, bears.holds⟩

instance respects_bind (p : Parser α) (f : α → Parser β) [first : Respects B base p]
    [next : ∀ a : Borne B base α, Respects B base (f a.val)] : Respects B base (p >>= f) where
  run sound ran := by
    obtain ⟨a, m, read, ran⟩ := of_bind_ok ran
    obtain ⟨sound', holds⟩ := first.run sound read
    exact (next ⟨a, holds⟩).run sound' ran

theorem respects_then (p : Parser α) {f : α → Parser β} [Respects B base p]
    (next : ∀ a, Bears B base a → Respects B base (f a)) : Respects B base (p >>= f) :=
  have : ∀ a : Borne B base α, Respects B base (f a.val) := fun a => next a.val inferInstance
  inferInstance

instance (p : Parser α) [Respects B base p] : Respects B base (discard p : Parser Unit) :=
  inferInstanceAs (Respects B base (p >>= fun _ => pure ()))

instance (c : Prop) [Decidable c] (p q : Parser α) [Respects B base p] [Respects B base q] :
    Respects B base (if c then p else q) := by
  split <;> infer_instance

instance : Respects B base (get : Parser Input) where
  run sound ran := by
    cases ran
    exact ⟨sound, sound⟩

instance (s : Input) [bears : Bears B base s] : Respects B base (set s : Parser PUnit) where
  run _ ran := by
    cases ran
    exact ⟨bears.holds, trivial⟩

theorem respects_modify {f : Input → Input} (kept : ∀ s, s.From B base → (f s).From B base) :
    Respects B base (modify f : Parser Unit) where
  run sound ran := by
    cases ran
    exact ⟨kept _ sound, trivial⟩

/-- Nothing needs to be known of what stands behind a failure. -/
theorem respects_of_fails {p : Parser α} (fails : ∀ s, ∃ e, p s = .error e) : Respects B base p where
  run {s _ _} _ ran := by
    obtain ⟨e, failed⟩ := fails s
    rw [failed] at ran
    cases ran

instance (e : SyntaxError) : Respects B base (throw e : Parser α) := respects_of_fails fun _ => ⟨_, rfl⟩

instance respects_forIn {γ : Type} (xs : List γ) (f : γ → PUnit → Parser (ForInStep PUnit))
    [∀ x u, Respects B base (f x u)] : Respects B base (forIn xs PUnit.unit f) := by
  induction xs with
  | nil => exact respects_pure _
  | cons x rest ih =>
    rw [List.forIn_cons]
    refine respects_then _ fun step _ => ?_
    cases step with
    | done u => exact respects_pure u
    | yield u => exact ih

/-- One reader or another, depending on what a third one says. -/
theorem respects_choice (p : Parser Bool) (q : Parser α) {r : Parser α} [Respects B base p] [Respects B base q]
    (other : Respects B base r) : Respects B base (do if ← p then q else r) :=
  inferInstance

theorem respects_when (c : Prop) [Decidable c] (p : Parser Unit) {next : Unit → Parser α} [Respects B base p]
    (after : ∀ u, Respects B base (next u)) : Respects B base (if c then p >>= next else next ()) :=
  inferInstance

end

/-! ### Looking ahead and failing -/

instance (e : Expect) : Respects B base (peek e) := by
  unfold peek
  infer_instance

instance (e : Expect) : Respects B base (peek2 e) := by
  unfold peek2
  infer_instance

instance (e : Expect) : Respects B base (peek3 e) := by
  unfold peek3
  infer_instance

instance (es : List Expect) : Respects B base (peekAny es) := by
  unfold peekAny
  infer_instance

instance : Respects B base atEnd := by
  unfold atEnd
  infer_instance

instance : Respects B base here := by
  unfold here
  infer_instance

section

variable [Bearing α] [Bearing β]

instance (p : Parser α) [ahead : Respects B base p] : Respects B base (lookAhead? p) where
  run {s r s'} sound ran := by
    obtain ⟨_, _, got, ran⟩ := of_bind_ok ran
    cases got
    cases read : p.run { s with stray := none } with
    | error e =>
      rw [read] at ran
      cases ran
      exact ⟨sound, by simp [Bearing.Holds]⟩
    | ok r =>
      rw [read] at ran
      cases ran
      obtain ⟨sound', holds⟩ :=
        ahead.run (s := { s with stray := none }) ⟨sound.read, sound.rest, sound.written⟩ read
      exact ⟨sound, fun _ member => Option.mem_some_iff.mp member ▸ ⟨holds, sound'⟩⟩

instance (p : Parser α) [ahead : Respects B base p] : Respects B base (behind p) where
  run {s r s'} sound ran := by
    obtain ⟨_, _, got, ran⟩ := of_bind_ok ran
    cases got
    obtain ⟨⟨a, t⟩, _, lifted, ran⟩ := of_bind_ok ran
    cases read : p.run { s with stray := none } with
    | error e =>
      rw [read] at lifted
      cases lifted
    | ok found =>
      rw [read] at lifted
      cases lifted
      cases ran
      obtain ⟨sound', holds⟩ :=
        ahead.run (s := { s with stray := none }) ⟨sound.read, sound.rest, sound.written⟩ read
      exact ⟨sound, holds, sound'.rest⟩

instance (t : Input) [bears : Bears B base t] : Respects B base (advanceTo t) :=
  respects_modify fun _ _ => ⟨bears.holds.read, bears.holds.rest, bears.holds.written⟩

instance (text : String) : Respects B base (failHere text : Parser α) :=
  respects_of_fails fun _ => ⟨_, rfl⟩

instance (text : String) : Respects B base (failPlain text : Parser α) :=
  respects_of_fails fun _ => ⟨_, rfl⟩

instance (text : String) (f : α → Parser β) : Respects B base (failHere text >>= f) :=
  respects_of_fails fun _ => ⟨_, rfl⟩

instance (text : String) (f : α → Parser β) : Respects B base (failPlain text >>= f) :=
  respects_of_fails fun _ => ⟨_, rfl⟩

instance (es : List Expect) (f : α → Parser β) : Respects B base (failExpected es >>= f) :=
  respects_of_fails fun _ => ⟨_, rfl⟩

instance (ts : List Token) (es : List Expect) : Respects B base (failExpectedAt ts es : Parser α) :=
  respects_of_fails fun _ => ⟨_, rfl⟩

instance (es : List Expect) : Respects B base (failExpected es : Parser α) :=
  respects_of_fails fun _ => ⟨_, rfl⟩

end

/-! ### Reading tokens and repetition -/

def RespectsAt (B : List Token → Prop) (base : List Token) [Bearing α] (s : Input) (p : Parser α) : Prop :=
  ∀ {a : α} {s' : Input}, s.From B base → p s = .ok (a, s') → s'.From B base ∧ Bearing.Holds B base a

theorem respectsAt [Bearing α] (s : Input) (p : Parser α) [respects : Respects B base p] : RespectsAt B base s p :=
  respects.run

/-- A reader that looks at its input first. -/
theorem respects_get [Bearing α] {f : Input → Parser α} (next : ∀ s, RespectsAt B base s (f s)) :
    Respects B base (get >>= f) where
  run {s _ _} sound ran := by
    obtain ⟨_, _, got, ran⟩ := of_bind_ok ran
    cases got
    exact next s sound ran

theorem of_captured_ok {p : Parser α} {s s' : Input} {r : α × List Token} (ran : captured p s = .ok (r, s')) :
    ∃ t, p { s with written := [] } = .ok (r.1, t) ∧ r.2 = t.written.reverse ∧
      s' = { t with written := t.written ++ s.written } := by
  obtain ⟨_, _, got, ran⟩ := of_bind_ok ran
  cases got
  obtain ⟨_, _, emptied, ran⟩ := of_bind_ok ran
  cases emptied
  obtain ⟨a, t, read, ran⟩ := of_bind_ok ran
  cases ran
  exact ⟨t, read, rfl, rfl⟩

theorem of_silently_ok {p : Parser α} {s s' : Input} {r : α × List Token} (ran : silently p s = .ok (r, s')) :
    ∃ t, p { s with written := [] } = .ok (r.1, t) ∧ r.2 = t.written.reverse ∧
      s' = { t with written := s.written } := by
  obtain ⟨_, _, got, ran⟩ := of_bind_ok ran
  cases got
  obtain ⟨_, _, emptied, ran⟩ := of_bind_ok ran
  cases emptied
  obtain ⟨a, t, read, ran⟩ := of_bind_ok ran
  cases ran
  exact ⟨t, read, rfl, rfl⟩

theorem of_inGroup_ok {d : Delimiter} {p : Parser α} {s s' : Input} {a : α} (ran : inGroup d p s = .ok (a, s')) :
    ∃ start inner t, s.rest = .group start d inner :: s'.rest ∧
      p { s with rest := inner, written := [] } = .ok (a, t) ∧
      s'.written = .ofGroup d t.written.reverse :: s.written := by
  obtain ⟨m, _, got, ran⟩ := of_bind_ok ran
  cases got
  cases front : s.rest with
  | nil =>
    rw [front] at ran
    cases ran
  | cons token rest =>
    rw [front] at ran
    cases token with
    | word | punct | literal => cases ran
    | group start e inner =>
      dsimp only at ran
      by_cases own : e = d
      · rw [if_pos own] at ran
        obtain ⟨_, _, entered, ran⟩ := of_bind_ok ran
        cases entered
        obtain ⟨b, t, read, ran⟩ := of_bind_ok ran
        cases ran
        exact ⟨start, inner, t, by rw [own], read, rfl⟩
      · rw [if_neg own] at ran
        cases ran

section

variable [Hereditary B] {s : Input} {l rest ts : List Token}

theorem Input.From.step (sound : s.From B base) (parts : s.rest = l ++ rest) (own : B l)
    (made : B ts) : Input.From B base { s with rest := rest, written := ts.reverse ++ s.written } := by
  obtain ⟨before, same, read⟩ := sound.read
  refine ⟨⟨before ++ l, ?_, Hereditary.append read own⟩, ?_, ?_⟩
  · rw [same, parts, List.append_assoc]
  · exact Hereditary.behind (parts ▸ sound.rest)
  · rw [List.reverse_append, List.reverse_reverse]
    exact Hereditary.append sound.written made

theorem of_afterOperator {cs : List Char} (found : afterOperator cs ts = some rest) (whole : B ts) :
    (∃ front, ts = front ++ rest ∧ B front) ∧ B (Token.ofOperator cs) := by
  fun_induction afterOperator cs ts with
  | case1 => cases found
  | case2 c p d r rest' same =>
    obtain ⟨rfl, other⟩ : c = d ∧ d ≠ '\'' := by simpa using same
    cases found
    have sign := Hereditary.sign whole other
    exact ⟨⟨[_], rfl, sign p r⟩, sign _ _⟩
  | case3 => cases found
  | case4 c more more' p d rest' same ih =>
    obtain ⟨rfl, other⟩ : c = p ∧ p ≠ '\'' := by simpa using same
    have sign := Hereditary.sign whole other
    obtain ⟨⟨front, parts, own⟩, made⟩ := ih found (Hereditary.behind (l := [_]) whole)
    refine ⟨⟨_ :: front, by rw [parts]; rfl, Hereditary.append (l := [_]) (sign _ _) own⟩, ?_⟩
    cases more with
    | nil => exact absurd rfl rest'
    | cons d more => exact Hereditary.append (l := [_]) (sign _ _) made
  | case5 => cases found
  | case6 => cases found

instance (ts : List Token) [bears : Bears B base ts] : Respects B base (write ts) where
  run sound ran := by
    cases ran
    exact ⟨sound.step (l := []) rfl Hereditary.nil bears.holds, trivial⟩

instance (text : String) : Respects B base (op text) := by
  refine respects_get fun s => ?_
  split
  · rename_i rest found
    intro _ _ sound ran
    obtain ⟨⟨front, parts, own⟩, made⟩ := of_afterOperator found sound.rest
    cases ran
    exact ⟨sound.step parts own made, trivial⟩
  · exact respectsAt s _

instance (text : String) : Respects B base (op? text) := by
  unfold op?
  infer_instance

instance (text : String) : Respects B base (word text) where
  run {s _ s'} sound ran := by
    obtain ⟨_, _, asked, ran⟩ := of_bind_ok ran
    cases asked
    split at ran
    · rename_i there
      cases ran
      cases front : s.rest with
      | nil =>
        rw [front] at there
        cases there
      | cons t rest =>
        rw [front] at there
        cases t with
        | word p w =>
          obtain rfl : w = text := by simpa [Expect.holds] using there
          have own := Hereditary.word (front ▸ sound.rest)
          exact ⟨sound.step (l := [_]) front (own p) (own _), trivial⟩
        | punct | literal | group => cases there
    · cases ran

instance (text : String) : Respects B base (word? text) := by
  unfold word?
  infer_instance

instance : Respects B base anyWord := by
  refine respects_get fun s => ?_
  split
  · rename_i p w rest front
    intro _ _ sound ran
    cases ran
    have own := Hereditary.word (front ▸ sound.rest)
    exact ⟨sound.step (l := [_]) front (own p) (own _), own p⟩
  · exact respectsAt s _

instance : Respects B base name := by
  refine respects_then _ fun s _ => ?_
  split <;> infer_instance

instance : Respects B base lifetime := by
  refine respects_get fun s => ?_
  split
  · rename_i p q w rest front
    intro _ _ sound ran
    cases ran
    have own := Hereditary.lifetime (front ▸ sound.rest)
    exact ⟨sound.step (l := [_, _]) front (own p q) (own _ _), trivial⟩
  · exact respectsAt s _

instance : Respects B base lifetime? := by
  unfold lifetime?
  infer_instance

theorem of_frontLiteral {l : LiteralValue} (found : frontLiteral ts = some (l, rest)) (whole : B ts) :
    (∃ front, ts = front ++ rest ∧ B front) ∧ B l.tokens := by
  unfold frontLiteral at found
  split at found
  · cases found
    obtain ⟨own, made⟩ := Hereditary.literal whole
    exact ⟨⟨[_], rfl, own⟩, made⟩
  · rename_i p w more
    have own := Hereditary.word whole
    split at found
    · rename_i isTrue
      cases found
      obtain rfl : w = "true" := by simpa using isTrue
      exact ⟨⟨[_], rfl, own p⟩, own _⟩
    · split at found
      · rename_i isFalse
        cases found
        obtain rfl : w = "false" := by simpa using isFalse
        exact ⟨⟨[_], rfl, own p⟩, own _⟩
      · cases found
  · rename_i p r q l' more
    split at found
    · cases found
      have minus := Hereditary.sign whole (by decide) p r
      have behind := Hereditary.behind (l := [_]) whole
      exact ⟨⟨[_, _], rfl, Hereditary.append (l := [_]) minus (Hereditary.literal behind).1⟩,
        Hereditary.negative behind⟩
    · cases found
  · cases found

instance : Respects B base literal := by
  refine respects_get fun s => ?_
  split
  · rename_i l rest found
    intro _ _ sound ran
    obtain ⟨⟨front, parts, own⟩, made⟩ := of_frontLiteral found sound.rest
    cases ran
    exact ⟨sound.step parts own made, trivial⟩
  · exact respectsAt s _

instance : Respects B base rawGroup := by
  refine respects_get fun s => ?_
  split
  · rename_i p d inner rest front
    intro _ _ sound ran
    cases ran
    have inside : B inner := Hereditary.inside (front ▸ sound.rest)
    have own := Hereditary.group inside
    exact ⟨sound.step (l := [_]) front (own p d) (own _ d), trivial, inside⟩
  · exact respectsAt s _

instance : Respects B base rawRest := by
  refine respects_get fun s _ s' sound ran => ?_
  cases ran
  exact ⟨sound.step (List.append_nil _).symm sound.rest sound.rest, sound.rest⟩

section

variable [Bearing α]

theorem Input.From.unwritten {s : Input} (sound : s.From B base) : Input.From B base { s with written := [] } :=
  ⟨sound.read, sound.rest, Hereditary.nil⟩

instance (p : Parser α) [inner : Respects B base p] : Respects B base (captured p) where
  run sound ran := by
    obtain ⟨t, read, own, rfl⟩ := of_captured_ok ran
    obtain ⟨sound', holds⟩ := inner.run sound.unwritten read
    refine ⟨⟨sound'.read, sound'.rest, ?_⟩, holds, own ▸ sound'.written⟩
    rw [List.reverse_append]
    exact Hereditary.append sound.written sound'.written

instance (p : Parser α) [inner : Respects B base p] : Respects B base (silently p) where
  run sound ran := by
    obtain ⟨t, read, own, rfl⟩ := of_silently_ok ran
    obtain ⟨sound', holds⟩ := inner.run sound.unwritten read
    exact ⟨⟨sound'.read, sound'.rest, sound.written⟩, holds, own ▸ sound'.written⟩

/-- Inside a group the input begins anew. -/
instance (d : Delimiter) (p : Parser α) [Unbased α] [reader : ∀ inner, Respects B inner p] :
    Respects B base (inGroup d p) where
  run {s a s'} sound ran := by
    obtain ⟨start, inner, t, front, read, written⟩ := of_inGroup_ok ran
    have inside : B inner := Hereditary.inside (front.symm ▸ sound.rest)
    obtain ⟨sound', holds⟩ := (reader inner).run ⟨⟨[], rfl, Hereditary.nil⟩, inside, Hereditary.nil⟩ read
    have stepped := sound.step (l := [_]) front (Hereditary.group inside start d)
      (Hereditary.group sound'.written .unknown d)
    refine ⟨⟨stepped.read, stepped.rest, ?_⟩, Unbased.holds holds⟩
    rw [written]
    exact stepped.written

end

/-- What was read since an earlier point is a part of what was read. -/
instance (start : Input) [bears : Bears B base start] : Respects B base (verbatimSince start) :=
  respects_modify fun s sound => by
    have before : start.From B base := bears.holds
    refine ⟨sound.read, sound.rest, ?_⟩
    rw [List.reverse_append, List.reverse_reverse]
    refine Hereditary.append before.written ?_
    obtain ⟨first, same, -⟩ := before.read
    obtain ⟨whole, same', own⟩ := sound.read
    rcases List.append_eq_append_iff.mp (same.symm.trans same') with ⟨since, rfl, parts⟩ | ⟨since, rfl, parts⟩
    · rw [parts, List.length_append, Nat.add_sub_cancel, List.take_left]
      exact Hereditary.behind own
    · rw [parts, List.length_append, Nat.sub_eq_zero_of_le (Nat.le_add_left _ _), List.take_zero]
      exact Hereditary.nil

instance respects_repeatAtMost (step : Parser Bool) [Respects B base step] (n : Nat) :
    Respects B base (repeatAtMost step n) := by
  induction n with
  | zero => exact respects_pure ()
  | succ n ih =>
    unfold repeatAtMost
    infer_instance

instance (step : Parser Bool) [Respects B base step] : Respects B base (repeatStep step) := by
  unfold repeatStep
  infer_instance

section

variable [Bearing α]

instance respects_collectAtMost (step : Parser (Option α)) [Respects B base step] (n : Nat) :
    Respects B base (collectAtMost step n) := by
  induction n with
  | zero => exact respects_pure []
  | succ n ih =>
    refine respects_then _ fun found bears => ?_
    cases found with
    | none => exact respects_pure []
    | some a =>
      have : Bears B base a := ⟨bears.holds a rfl⟩
      infer_instance

instance (step : Parser (Option α)) [Respects B base step] : Respects B base (collect step) := by
  unfold collect
  infer_instance

instance (p : Parser α) [Respects B base p] : Respects B base (untilEnd p) := by
  unfold untilEnd
  infer_instance

instance (p : Parser α) [Respects B base p] : Respects B base (commaTerminated p) := by
  unfold commaTerminated
  infer_instance

end

end

/-- What the reader leaves is the end of its input. -/
class Advances {α : Type} (p : Parser α) : Prop where
  suffix : ∀ {s : Input} {a : α} {s' : Input}, p s = .ok (a, s') → s'.rest <:+ s.rest

export Advances (suffix)

instance [Bearing α] (p : Parser α) [respects : ∀ base, Respects Token.Any base p] : Advances p where
  suffix {s _ _} ran := by
    obtain ⟨ts, same, -⟩ := ((respects s.rest).run ⟨⟨[], rfl, trivial⟩, trivial, trivial⟩ ran).1.read
    exact ⟨ts, same.symm⟩

instance (start : Input) : Advances (verbatimSince start) where
  suffix ran := by
    cases ran
    exact List.suffix_rfl

end Syntax

end SlotBinding
