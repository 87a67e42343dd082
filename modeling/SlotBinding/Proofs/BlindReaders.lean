import Mathlib.Logic.Basic
import SlotBinding.Proofs.Places

/-!
# Readers that do not see places

A reader is blind if it reads without places what it reads with them: the same fault, or the same
result and the same rest but for the places. What a reader goes on with may hold places, so `ReadsBare`
compares two readers, as `Unplaces` does two values.
-/

namespace SlotBinding.Syntax

open SlotBinding.Syntax.Parser

variable {α β : Type}

/-! ### Values -/

/-- The second value is the first one without its places. -/
class Unplaces [Placed α] (a b : α) : Prop where
  eq : unplaced a = b

/-- The second reader reads without places what the first one reads with them. -/
class ReadsBare [Placed α] (p q : Parser α) : Prop where
  run : ∀ s : Input, q (unplaced s) = (p s).map unplaced

/-- The reader reads without places what it reads with them. -/
abbrev Blind [Placed α] (p : Parser α) : Prop := ReadsBare p p

section

variable [Placed α] [Placed β]

instance (priority := low) (a : α) : Unplaces a (unplaced a) := ⟨rfl⟩

instance [Placeless α] (a : α) : Unplaces a a := ⟨unplaced_eq a⟩

theorem Unplaces.same {a b : α} [Placeless α] (bare : Unplaces a b) : a = b :=
  (unplaced_eq a).symm.trans bare.eq

instance (a a' : α) (b b' : β) [left : Unplaces a a'] [right : Unplaces b b'] :
    Unplaces (a, b) (a', b') where
  eq := congrArg₂ Prod.mk left.eq right.eq

instance (x y : α × β) [bare : Unplaces x y] : Unplaces x.1 y.1 := ⟨congrArg Prod.fst bare.eq⟩

instance (x y : α × β) [bare : Unplaces x y] : Unplaces x.2 y.2 := ⟨congrArg Prod.snd bare.eq⟩

instance : Unplaces (none : Option α) none := ⟨rfl⟩

instance (a b : α) [bare : Unplaces a b] : Unplaces (some a) (some b) := ⟨congrArg some bare.eq⟩

instance : Unplaces ([] : List α) [] := ⟨rfl⟩

instance (a b : α) (as bs : List α) [first : Unplaces a b] [rest : Unplaces as bs] :
    Unplaces (a :: as) (b :: bs) where
  eq := congrArg₂ List.cons first.eq rest.eq

instance (as bs as' bs' : List α) [left : Unplaces as as'] [right : Unplaces bs bs'] :
    Unplaces (as ++ bs) (as' ++ bs') where
  eq := by rw [unplaced_append, left.eq, right.eq]

instance (as bs : List α) [bare : Unplaces as bs] : Unplaces as.reverse bs.reverse where
  eq := by rw [unplaced_reverse, bare.eq]

instance (as bs : List α) (f g : α → β) [bare : Unplaces as bs]
    [each : ∀ a, Unplaces (f a) (g (unplaced a))] : Unplaces (as.map f) (bs.map g) where
  eq := by
    rw [← bare.eq]
    show (as.map f).map unplaced = (as.map unplaced).map g
    rw [List.map_map, List.map_map]
    exact List.map_congr_left fun a _ => (each a).eq

instance (as bs : List α) (f g : α → List β) [bare : Unplaces as bs]
    [each : ∀ a, Unplaces (f a) (g (unplaced a))] : Unplaces (as.flatMap f) (bs.flatMap g) where
  eq := by
    rw [← bare.eq]
    show (as.flatMap f).map unplaced = (as.map unplaced).flatMap g
    rw [List.map_flatMap, List.flatMap_map]
    congr 1
    funext a
    exact (each a).eq

instance (n m : Nat) (as bs : List α) [count : Unplaces n m] [bare : Unplaces as bs] :
    Unplaces (as.take n) (bs.take m) where
  eq := by rw [count.same, unplaced_take, bare.eq]

instance (n : Nat) (as bs : List α) [bare : Unplaces as bs] : Unplaces (as.drop n) (bs.drop n) where
  eq := by rw [unplaced_drop, bare.eq]

instance (as bs : List α) [bare : Unplaces as bs] : Unplaces as.length bs.length where
  eq := by rw [unplaced_eq, ← bare.eq, length_unplaced]

instance (as bs : List α) [bare : Unplaces as bs] : Unplaces as.isEmpty bs.isEmpty where
  eq := by rw [unplaced_eq, ← bare.eq, isEmpty_unplaced]

instance (c : Prop) [Decidable c] (a b a' b' : α) [yes : Unplaces a a'] [no : Unplaces b b'] :
    Unplaces (if c then a else b) (if c then a' else b') := by
  split <;> assumption

instance (b c : Bool) (x y x' y' : α) [bare : Unplaces b c] [yes : Unplaces x x']
    [no : Unplaces y y'] : Unplaces (if b then x else y) (if c then x' else y') := by
  obtain rfl := bare.same
  split <;> assumption

instance (a b : Option α) [bare : Unplaces a b] : Unplaces a.isSome b.isSome where
  eq := by rw [unplaced_eq, ← bare.eq, isSome_unplaced]

instance (a b : Option α) (d e : α) [bare : Unplaces a b] [other : Unplaces d e] :
    Unplaces (a.getD d) (b.getD e) where
  eq := by
    rw [← bare.eq]
    cases a with
    | none => exact other.eq
    | some a => rfl

instance (as bs : List (Option α)) [bare : Unplaces as bs] :
    Unplaces (as.filterMap id) (bs.filterMap id) where
  eq := by
    rw [← bare.eq]
    show (as.filterMap id).map unplaced = (as.map (Option.map unplaced)).filterMap id
    rw [List.map_filterMap, List.filterMap_map]
    rfl

instance (a b a' b' : Option α) [Placeless α] [left : Unplaces a a'] [right : Unplaces b b'] :
    Unplaces (a <|> b) (a' <|> b') where
  eq := by rw [left.same, right.same, unplaced_eq]

end

instance (n m : Nat) [bare : Unplaces n m] : Unplaces (n + 1) (m + 1) :=
  ⟨congrArg (· + 1) bare.same⟩

instance (n m n' m' : Nat) [left : Unplaces n n'] [right : Unplaces m m'] :
    Unplaces (n - m) (n' - m') :=
  ⟨congrArg₂ (· - ·) left.same right.same⟩

instance (b c : Bool) [bare : Unplaces b c] : Unplaces (!b) (!c) := ⟨congrArg not bare.same⟩

instance (b c b' c' : Bool) [left : Unplaces b b'] [right : Unplaces c c'] :
    Unplaces (b && c) (b' && c') :=
  ⟨congrArg₂ and left.same right.same⟩

instance (b c b' c' : Bool) [left : Unplaces b b'] [right : Unplaces c c'] :
    Unplaces (b || c) (b' || c') :=
  ⟨congrArg₂ or left.same right.same⟩

instance (e : Expect) (ts us : List Token) [bare : Unplaces ts us] :
    Unplaces (e.holds ts) (e.holds us) where
  eq := by rw [unplaced_eq, ← bare.eq, Expect.holds_unplaced]

instance (ts us : List Token) [bare : Unplaces ts us] : Unplaces (skipTree ts) (skipTree us) where
  eq := by rw [← bare.eq, skipTree_unplaced]

instance (p : Position) : Unplaces p .unknown := ⟨rfl⟩

instance (p : Position) (text : String) : Unplaces (Token.word p text) (.word .unknown text) := ⟨rfl⟩

instance (p : Position) (c : Char) (s : Spacing) :
    Unplaces (Token.punct p c s) (.punct .unknown c s) :=
  ⟨rfl⟩

instance (p : Position) (l : Literal) : Unplaces (Token.literal p l) (.literal .unknown l) := ⟨rfl⟩

instance (text : String) : Unplaces (Token.ofWord text) (Token.ofWord text) :=
  ⟨Token.unplaced_ofWord text⟩

instance (cs : List Char) : Unplaces (Token.ofOperator cs) (Token.ofOperator cs) :=
  ⟨Token.unplaced_ofOperator cs⟩

instance (l : Literal) : Unplaces (Token.ofLiteral l) (Token.ofLiteral l) :=
  ⟨Token.unplaced_ofLiteral l⟩

instance (l : LiteralValue) : Unplaces l.tokens l.tokens := ⟨unplaced_tokens l⟩

instance (d : Delimiter) (ts us : List Token) [bare : Unplaces ts us] :
    Unplaces (Token.ofGroup d ts) (Token.ofGroup d us) where
  eq := by rw [Token.unplaced_ofGroup, bare.eq]

instance (s t : Input) [bare : Unplaces s t] : Unplaces s.rest t.rest :=
  ⟨congrArg Input.rest bare.eq⟩

instance (s t : Input) [bare : Unplaces s t] : Unplaces s.written t.written :=
  ⟨congrArg Input.written bare.eq⟩

instance (s t : Input) [bare : Unplaces s t] : Unplaces s.stray t.stray where
  eq := by rw [unplaced_eq, ← bare.eq, stray_unplaced]

instance (rest rest' written written' : List Token) (stray stray' : Option Delimiter)
    [front : Unplaces rest rest'] [back : Unplaces written written'] [left : Unplaces stray stray'] :
    Unplaces (Input.mk rest written stray) (Input.mk rest' written' stray') where
  eq := by
    obtain rfl := left.same
    rw [← front.eq, ← back.eq]
    rfl

/-! ### Putting readers together -/

section

variable [Placed α] [Placed β]

instance (a b : α) [bare : Unplaces a b] : ReadsBare (pure a) (pure b) where
  run s := congrArg (fun a => Except.ok (a, unplaced s)) bare.eq.symm

-- Tried last, as most readers go on with a value that holds no places.
instance (priority := low) blind_bind (p q : Parser α) (f g : α → Parser β) [first : ReadsBare p q]
    [next : ∀ a, ReadsBare (f a) (g (unplaced a))] : ReadsBare (p >>= f) (q >>= g) where
  run s := by
    show (q (unplaced s)).bind (fun r => g r.1 r.2) = ((p s).bind fun r => f r.1 r.2).map unplaced
    rw [first.run s]
    cases p s with
    | error e => rfl
    | ok r => exact (next r.1).run r.2

instance blind_bind_same (p q : Parser α) (f g : α → Parser β) [Placeless α] [ReadsBare p q]
    [next : ∀ a, ReadsBare (f a) (g a)] : ReadsBare (p >>= f) (q >>= g) :=
  have : ∀ a, ReadsBare (f a) (g (unplaced a)) := fun a => (unplaced_eq a).symm ▸ next a
  blind_bind p q f g

theorem blind_then (p q : Parser α) {f g : α → Parser β} [ReadsBare p q]
    (next : ∀ a, ReadsBare (f a) (g (unplaced a))) : ReadsBare (p >>= f) (q >>= g) :=
  blind_bind p q f g

/-- What was read holds no places. -/
theorem blind_then_same (p q : Parser α) {f g : α → Parser β} [Placeless α] [ReadsBare p q]
    (next : ∀ a, ReadsBare (f a) (g a)) : ReadsBare (p >>= f) (q >>= g) :=
  blind_bind_same p q f g

instance (p q : Parser α) [ReadsBare p q] : ReadsBare (discard p : Parser Unit) (discard q) :=
  inferInstanceAs (ReadsBare (p >>= fun _ => pure ()) (q >>= fun _ => pure ()))

instance (c : Prop) [Decidable c] (p q p' q' : Parser α) [yes : ReadsBare p p'] [no : ReadsBare q q'] :
    ReadsBare (if c then p else q) (if c then p' else q') := by
  split <;> assumption

instance (b c : Bool) (p q p' q' : Parser α) [bare : Unplaces b c] [yes : ReadsBare p p']
    [no : ReadsBare q q'] : ReadsBare (if b then p else q) (if c then p' else q') := by
  obtain rfl := bare.same
  split <;> assumption

instance (n m n' m' : Nat) (p q p' q' : Parser α) [left : Unplaces n n'] [right : Unplaces m m']
    [yes : ReadsBare p p'] [no : ReadsBare q q'] :
    ReadsBare (if n = m then p else q) (if n' = m' then p' else q') := by
  obtain rfl := left.same
  obtain rfl := right.same
  split <;> assumption

/-- One reader or another, depending on what a third one says. -/
theorem blind_choice (p p' : Parser Bool) (q q' : Parser α) {r r' : Parser α} [ReadsBare p p']
    [ReadsBare q q'] (other : ReadsBare r r') :
    ReadsBare (do if ← p then q else r) (do if ← p' then q' else r') :=
  inferInstance

theorem blind_when (c : Prop) [Decidable c] (p p' : Parser Unit) {next next' : Unit → Parser α}
    [ReadsBare p p'] (after : ∀ u, ReadsBare (next u) (next' u)) :
    ReadsBare (if c then p >>= next else next ()) (if c then p' >>= next' else next' ()) :=
  inferInstance

instance : ReadsBare (get : Parser Input) get := ⟨fun _ => rfl⟩

instance (s t : Input) [bare : Unplaces s t] : ReadsBare (set s : Parser PUnit) (set t) where
  run _ := congrArg (fun t => Except.ok ((), t)) bare.eq.symm

theorem blind_modify {f g : Input → Input} (same : ∀ s, Unplaces (f s) (g (unplaced s))) :
    ReadsBare (modify f : Parser Unit) (modify g) where
  run s := congrArg (fun t => Except.ok ((), t)) (same s).eq.symm

instance (f g : Input → List Token) [∀ s, Unplaces (f s) (g (unplaced s))] :
    ReadsBare (modify fun s => { s with written := f s } : Parser Unit)
      (modify fun s => { s with written := g s }) :=
  blind_modify fun _ => inferInstance

instance (atEnd atEnd' : Bool) (what : List String) [bare : Unplaces atEnd atEnd'] :
    Unplaces (SyntaxError.expected atEnd what) (SyntaxError.expected atEnd' what) :=
  ⟨congrArg (SyntaxError.expected · what) bare.same⟩

instance (e e' : SyntaxError) [same : Unplaces e e'] : ReadsBare (throw e : Parser α) (throw e') :=
  ⟨fun _ => congrArg Except.error same.same.symm⟩

instance blind_forIn {γ : Type} (xs : List γ) (b : β) [Placeless β]
    (f g : γ → β → Parser (ForInStep β)) [step : ∀ x b, ReadsBare (f x b) (g x b)] :
    ReadsBare (forIn xs b f) (forIn xs b g) := by
  induction xs generalizing b with
  | nil => exact inferInstanceAs (Blind (pure b))
  | cons x rest ih =>
    rw [List.forIn_cons, List.forIn_cons]
    refine blind_then_same _ _ fun next => ?_
    cases next with
    | done b => exact inferInstanceAs (Blind (pure b))
    | yield b => exact ih b

end

/-! ### Looking ahead and failing -/

instance (e : Expect) : Blind (peek e) := by
  unfold peek
  infer_instance

instance (e : Expect) : Blind (peek2 e) := by
  unfold peek2
  infer_instance

instance (e : Expect) : Blind (peek3 e) := by
  unfold peek3
  infer_instance

instance (es : List Expect) (ts us : List Token) [Unplaces ts us] :
    Unplaces (es.any (·.holds ts)) (es.any (·.holds us)) := by
  induction es with
  | nil => exact ⟨rfl⟩
  | cons e rest ih => exact inferInstanceAs (Unplaces (e.holds ts || _) (e.holds us || _))

instance (es : List Expect) : Blind (peekAny es) := by
  unfold peekAny
  infer_instance

instance : Blind atEnd := by
  unfold atEnd
  infer_instance

instance (ts us : List Token) [bare : Unplaces ts us] :
    Unplaces ((ts.head?.map Token.start).getD .unknown) ((us.head?.map Token.start).getD .unknown) where
  eq := by
    rw [← bare.eq]
    cases ts with
    | nil => rfl
    | cons t rest => exact (Token.start_unplaced t).symm

instance : Blind here := by
  unfold here
  infer_instance

theorem ReadsBare.aside [Placed α] {p q : Parser α} (same : ReadsBare p q) (s t : Input)
    [bare : Unplaces s t] : q.run t = (p.run s).map unplaced := by
  rw [← bare.eq]
  exact same.run s

instance (p q : Parser α) [Placed α] [ahead : ReadsBare p q] :
    ReadsBare (lookAhead? p) (lookAhead? q) := by
  refine blind_then _ _ fun s => ?_
  rw [ahead.aside { s with stray := none }]
  cases p.run { s with stray := none } with
  | ok r => exact inferInstanceAs (ReadsBare (pure (some r)) (pure (some (unplaced r))))
  | error e => exact inferInstanceAs (Blind (pure none))

instance [Placed α] (r : Except SyntaxError α) :
    ReadsBare (liftM r : Parser α) (liftM (r.map unplaced)) := by
  cases r with
  | ok a => exact inferInstanceAs (ReadsBare (pure a) (pure (unplaced a)))
  | error e => exact inferInstanceAs (Blind (throw e))

instance (p q : Parser α) [Placed α] [ahead : ReadsBare p q] : ReadsBare (behind p) (behind q) := by
  refine blind_then _ _ fun s => ?_
  rw [ahead.aside { s with stray := none }]
  infer_instance

instance (s t : Input) [Unplaces s t] : ReadsBare (advanceTo s) (advanceTo t) := by
  refine blind_modify fun u => ?_
  infer_instance

section

variable [Placed α]

instance (text : String) : ReadsBare (failHere text : Parser α) (failHere text) := by
  unfold failHere
  infer_instance

instance (text : String) : ReadsBare (failPlain text : Parser α) (failPlain text) := by
  unfold failPlain
  infer_instance

instance (ts us : List Token) (es es' : List Expect) [bare : Unplaces ts us]
    [same : Unplaces es es'] : ReadsBare (failExpectedAt ts es : Parser α) (failExpectedAt us es') := by
  obtain rfl := same.same
  unfold failExpectedAt
  rw [← bare.eq, isEmpty_unplaced]
  simp only [Expect.holds_unplaced]
  infer_instance

instance (es : List Expect) : ReadsBare (failExpected es : Parser α) (failExpected es) := by
  unfold failExpected
  infer_instance

end

/-! ### Reading tokens and repetition -/

instance (ts us : List Token) [Unplaces ts us] : ReadsBare (write ts) (write us) := by
  unfold write
  infer_instance

instance (ts us : List Token) [Unplaces ts us] : ReadsBare (moveTo ts) (moveTo us) :=
  blind_modify fun _ => inferInstance

instance (text : String) : Blind (op text) := by
  refine blind_then _ _ fun s => ?_
  rw [rest_unplaced, afterOperator_unplaced]
  cases afterOperator text.toList s.rest with
  | none => exact inferInstanceAs (Blind (throw _))
  | some rest =>
    show ReadsBare (do moveTo rest; write _) (do moveTo (unplaced rest); write _)
    infer_instance

instance (text : String) : Blind (op? text) := by
  unfold op?
  infer_instance

instance (text : String) : Blind (word text) := by
  unfold word
  infer_instance

instance (text : String) : Blind (word? text) := by
  unfold word?
  infer_instance

instance : Blind anyWord := by
  refine blind_then _ _ fun s => ?_
  rw [rest_unplaced]
  cases s.rest with
  | nil => exact inferInstanceAs (Blind (failHere _))
  | cons t rest =>
    cases t with
    | word p w =>
      simp only [unplaced_cons, Token.unplaced_word]
      infer_instance
    | punct | literal | group =>
      simp only [unplaced_cons, Token.unplaced_punct, Token.unplaced_literal, Token.unplaced_group]
      infer_instance

instance : Blind name := by
  refine blind_then _ _ fun s => ?_
  rw [rest_unplaced]
  cases s.rest with
  | nil => exact inferInstanceAs (Blind (failHere _))
  | cons t rest =>
    cases t with
    | word p w =>
      simp only [unplaced_cons, Token.unplaced_word]
      infer_instance
    | punct | literal | group =>
      simp only [unplaced_cons, Token.unplaced_punct, Token.unplaced_literal, Token.unplaced_group]
      infer_instance

instance : Blind lifetime := by
  refine blind_then _ _ fun s => ?_
  rw [rest_unplaced]
  cases s.rest with
  | nil => exact inferInstanceAs (Blind (failHere _))
  | cons t rest =>
    cases t with
    | word | literal | group => exact inferInstanceAs (Blind (failHere _))
    | punct p c s =>
      by_cases quote : c = '\'' ∧ s = .joint
      · obtain ⟨rfl, rfl⟩ := quote
        cases rest with
        | nil => exact inferInstanceAs (Blind (failHere _))
        | cons u rest =>
          cases u with
          | punct | literal | group => exact inferInstanceAs (Blind (failHere _))
          | word q w =>
            simp only [unplaced_cons, Token.unplaced_punct, Token.unplaced_word]
            infer_instance
      · split
        · simp_all
        · split
          · simp_all
          · infer_instance

instance : Blind lifetime? := by
  unfold lifetime?
  infer_instance

instance : Blind literal := by
  refine blind_then _ _ fun s => ?_
  rw [rest_unplaced, frontLiteral_unplaced]
  cases frontLiteral s.rest with
  | none => exact inferInstanceAs (Blind (failHere _))
  | some found =>
    show ReadsBare (do moveTo found.2; write found.1.tokens; return found.1)
      (do moveTo (unplaced found.2); write found.1.tokens; return found.1)
    infer_instance

instance (p q : Parser α) [Placed α] [ReadsBare p q] : ReadsBare (captured p) (captured q) := by
  unfold captured
  infer_instance

instance (p q : Parser α) [Placed α] [ReadsBare p q] : ReadsBare (silently p) (silently q) := by
  unfold silently
  infer_instance

instance (d : Delimiter) (p q : Parser α) [Placed α] [ReadsBare p q] :
    ReadsBare (inGroup d p) (inGroup d q) := by
  refine blind_then _ _ fun s => ?_
  rw [rest_unplaced]
  cases s.rest with
  | nil =>
    rw [unplaced_nil]
    infer_instance
  | cons t rest =>
    cases t with
    | group start e inner =>
      simp only [unplaced_cons, Token.unplaced_group]
      infer_instance
    | word | punct | literal =>
      simp only [unplaced_cons, Token.unplaced_word, Token.unplaced_punct, Token.unplaced_literal]
      infer_instance

instance : Blind rawGroup := by
  refine blind_then _ _ fun s => ?_
  rw [rest_unplaced]
  cases s.rest with
  | nil => exact inferInstanceAs (Blind (failHere _))
  | cons t rest =>
    cases t with
    | group start d inner =>
      simp only [unplaced_cons, Token.unplaced_group]
      infer_instance
    | word | punct | literal =>
      simp only [unplaced_cons, Token.unplaced_word, Token.unplaced_punct, Token.unplaced_literal]
      infer_instance

instance : Blind rawRest := by
  unfold rawRest
  infer_instance

instance (s t : Input) [Unplaces s t] : ReadsBare (verbatimSince s) (verbatimSince t) := by
  unfold verbatimSince
  infer_instance

instance blind_repeatAtMost (step step' : Parser Bool) [ReadsBare step step'] (n m : Nat)
    [bare : Unplaces n m] :
    ReadsBare (repeatAtMost step n) (repeatAtMost step' m) := by
  obtain rfl := bare.same
  clear bare
  induction n with
  | zero => exact inferInstanceAs (Blind (pure ()))
  | succ n ih =>
    unfold repeatAtMost
    infer_instance

instance (step step' : Parser Bool) [ReadsBare step step'] :
    ReadsBare (repeatStep step) (repeatStep step') := by
  unfold repeatStep
  infer_instance

section

variable [Placed α]

instance blind_collectAtMost (step step' : Parser (Option α)) [ReadsBare step step'] (n m : Nat)
    [bare : Unplaces n m] :
    ReadsBare (collectAtMost step n) (collectAtMost step' m) := by
  obtain rfl := bare.same
  clear bare
  induction n with
  | zero => exact inferInstanceAs (Blind (pure []))
  | succ n ih =>
    refine blind_then _ _ fun found => ?_
    cases found with
    | none => exact inferInstanceAs (Blind (pure []))
    | some a =>
      show ReadsBare (do return a :: (← collectAtMost step n))
        (do return unplaced a :: (← collectAtMost step' n))
      infer_instance

instance (step step' : Parser (Option α)) [ReadsBare step step'] :
    ReadsBare (collect step) (collect step') := by
  unfold collect
  infer_instance

instance (p q : Parser α) [ReadsBare p q] : ReadsBare (untilEnd p) (untilEnd q) := by
  unfold untilEnd
  infer_instance

instance (p q : Parser α) [ReadsBare p q] : ReadsBare (commaTerminated p) (commaTerminated q) := by
  unfold commaTerminated
  infer_instance

theorem runAll_unplaced (p q : Parser α) [blind : ReadsBare p q] (ts : List Token) :
    q.runAll (unplaced ts) = (p.runAll ts).map unplaced := by
  have same : q.run { rest := unplaced ts } = (p.run { rest := ts }).map unplaced :=
    blind.run { rest := ts }
  unfold runAll
  rw [same]
  cases p.run { rest := ts } with
  | error e => rfl
  | ok r =>
    obtain ⟨a, s⟩ := r
    simp only [bind, Except.bind, Except.map, unplaced_pair, stray_unplaced, rest_unplaced,
      isEmpty_unplaced]
    cases s.stray with
    | some d => rfl
    | none =>
      dsimp only
      split
      · rw [written_unplaced, ← unplaced_reverse]
        rfl
      · rfl

end

end SlotBinding.Syntax
