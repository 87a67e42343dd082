import SlotBinding.Derive
import SlotBinding.Grammar.Recursion
import SlotBinding.Proofs.StringLiteral

/-!
# The path that is derived for a struct

`emitsPath_derivePath`: what reads as a struct is given an implementation whose path ends in the name of
the struct. The item reader and the reader of declarations go the same way through a struct.
-/

namespace SlotBinding

open Syntax Parser

namespace Syntax.Parser

def Gives {α : Type} (P : α → Prop) (p : Parser α) : Prop :=
  ∀ s a s', p s = .ok (a, s') → P a

variable {α β : Type} {Q : α → Prop} {P : β → Prop}

theorem of_bind_ok {p : Parser α} {f : α → Parser β} {s s' : Input} {b : β}
    (ran : (p >>= f) s = .ok (b, s')) : ∃ a m, p s = .ok (a, m) ∧ f a m = .ok (b, s') := by
  change (p s >>= fun r => f r.1 r.2) = .ok (b, s') at ran
  cases first : p s with
  | error e => rw [first] at ran; cases ran
  | ok r =>
    rw [first] at ran
    exact ⟨r.1, r.2, rfl, ran⟩

theorem bind_ok {p : Parser α} {f : α → Parser β} {s m s' : Input} {a : α} {b : β}
    (first : p s = .ok (a, m)) (rest : f a m = .ok (b, s')) : (p >>= f) s = .ok (b, s') := by
  change (p s >>= fun r => f r.1 r.2) = .ok (b, s')
  rw [first]
  exact rest

theorem discard_ok {p : Parser α} {s m : Input} {a : α} (ran : p s = .ok (a, m)) :
    (discard p : Parser Unit) s = .ok ((), m) := by
  change (p s >>= fun r => pure ((), r.2)) = _
  rw [ran]
  rfl

theorem word?_ok {w : String} {s m : Input} (ran : word w s = .ok ((), m)) :
    word? w s = .ok (true, m) := by
  obtain ⟨there, n, asked, rest⟩ := of_bind_ok ran
  have same : peek (.word w) s = .ok ((Expect.word w).holds s.rest, s) := rfl
  cases asked.symm.trans same
  refine bind_ok same ?_
  cases holds : (Expect.word w).holds s.rest with
  | true => exact bind_ok ran rfl
  | false =>
    rw [holds] at rest
    cases rest

theorem runAll_ok {p : Parser α} {ts : List Token} {a : α} {s : Input}
    (ran : p { rest := ts } = .ok (a, s)) (whole : s.stray = none) (done : s.rest = []) :
    runAll p ts = .ok (a, s.written.reverse) := by
  simp [runAll, StateT.run, ran, bind, Except.bind, whole, done, pure, Except.pure]

theorem of_runAll_ok {p : Parser α} {ts w : List Token} {a : α} (read : runAll p ts = .ok (a, w)) :
    ∃ s, p { rest := ts } = .ok (a, s) ∧ s.stray = none ∧ s.rest = [] := by
  unfold runAll at read
  cases ran : p { rest := ts } with
  | error e =>
    rw [StateT.run, ran] at read
    cases read
  | ok r =>
    rw [StateT.run, ran] at read
    simp only [bind, Except.bind] at read
    split at read
    · cases read
    · rename_i whole
      split at read
      · rename_i done
        cases read
        exact ⟨_, rfl, whole, List.isEmpty_iff.mp done⟩
      · cases read

theorem gives_bind {p : Parser α} {f : α → Parser β} (first : Gives Q p)
    (after : ∀ a, Q a → Gives P (f a)) : Gives P (p >>= f) := by
  intro s b s' ran
  obtain ⟨a, m, read, rest⟩ := of_bind_ok ran
  exact after a (first s a m read) m b s' rest

theorem gives_after {p : Parser α} {f : α → Parser β} (after : ∀ a, Gives P (f a)) :
    Gives P (p >>= f) :=
  gives_bind (Q := fun _ => True) (fun _ _ _ _ => trivial) fun a _ => after a

theorem gives_pure {b : β} (holds : P b) : Gives P (pure b : Parser β) := by
  intro s a s' ran
  cases ran
  exact holds

theorem gives_failExpectedAt (ts : List Token) (es : List Expect) :
    Gives P (failExpectedAt ts es : Parser β) := by
  intro s a s' ran
  cases ran

theorem gives_failExpected (es : List Expect) : Gives P (failExpected es : Parser β) :=
  gives_after fun _ => gives_failExpectedAt _ es

theorem gives_ite {c : Prop} [Decidable c] {p q : Parser β} (yes : Gives P p) (no : Gives P q) :
    Gives P (if c then p else q) := by
  split
  · exact yes
  · exact no

theorem gives_inGroup {d : Delimiter} {p : Parser β} (inside : Gives P p) : Gives P (inGroup d p) := by
  refine gives_after fun s => ?_
  split
  · refine gives_ite (gives_after fun _ => ?_) ?_
    · exact gives_bind inside fun b holds => gives_after fun _ => gives_after fun _ => gives_pure holds
    · intro s a s' ran
      cases ran
  · intro s a s' ran
    cases ran

end Syntax.Parser

/-! ### The reader of items -/

namespace Grammar

variable {g : Grammar}

def NotStruct (i : Item) : Prop := ∀ d, i ≠ .struct d

def otherReaders (g : Grammar) : List (Parser Item) :=
  [functionItem g, externCrateItem, foreignBlock g, useItem g, staticItem g, constItem g, modItem g,
   typeItem g, enumItem g, unionItem g, traitItem g, traitOrAliasItem g, implItem g, macroItem,
   invocationItem]

theorem gives_otherReaders : ∀ p ∈ otherReaders g, Gives NotStruct p := by
  simp only [otherReaders, List.forall_mem_cons, List.not_mem_nil, false_imp_iff, implies_true, and_true]
  dsimp only [functionItem, externCrateItem, foreignBlock, useItem, staticItem, constItem, modItem,
    typeItem, enumItem, unionItem, traitItem, traitOrAliasItem, traitBody, implItem, macroItem,
    invocationItem]
  -- Only the last step on each branch of a reader matters, and it names another kind of item.
  repeat' first
    | with_reducible exact gives_failExpected _
    | with_reducible refine gives_inGroup ?_
    | with_reducible refine gives_after fun _ => ?_
    | with_reducible refine And.intro ?_ ?_
    | split
  all_goals exact gives_pure (by rintro _ ⟨⟩)

theorem gives_externItem (ts : List Token) : Gives NotStruct (externItem g ts) := by
  have other := gives_otherReaders (g := g)
  simp only [otherReaders, List.forall_mem_cons] at other
  obtain ⟨_, crate, block, _⟩ := other
  refine gives_ite crate (gives_ite block (gives_ite ?_ ?_))
  · exact gives_ite block (gives_failExpectedAt _ _)
  · exact gives_failExpectedAt _ _

theorem gives_unsafeItem (ts : List Token) : Gives NotStruct (unsafeItem g ts) := by
  have other : ∀ p ∈ otherReaders g, Gives NotStruct p := gives_otherReaders
  refine gives_ite (other (traitItem g) ?_) (gives_ite (other (implItem g) ?_)
    (gives_ite (other (foreignBlock g) ?_) (gives_ite (other (modItem g) ?_) (gives_failExpectedAt _ _))))
  all_goals simp [otherReaders]

theorem behind_state {α : Type} {p : Parser α} {s s' : Input} {r : α × List Token}
    (ran : behind p s = .ok (r, s')) : s' = s := by
  unfold behind at ran
  obtain ⟨_, _, got, rest⟩ := of_bind_ok ran
  cases got
  obtain ⟨_, _, read, last⟩ := of_bind_ok rest
  cases looked : p.run { s with stray := none } with
  | error e =>
    rw [looked] at read
    cases read
  | ok got =>
    rw [looked] at read
    cases read
    cases last
    rfl

theorem of_ite {α : Type} {c : Prop} [Decidable c] {p q : Parser α} {s : Input}
    {r : Except SyntaxError (α × Input)} {P : Prop} (yes : p s = r → P) (no : q s = r → P) :
    (if c then p else q) s = r → P := by
  split
  · exact yes
  · exact no

theorem structItem_of_itemBody {s s' : Input} {d : StructDecl}
    (ran : itemBody g s = .ok (.struct d, s')) : structItem g s = .ok (.struct d, s') := by
  unfold itemBody at ran
  obtain ⟨⟨vis, ahead⟩, m, looked, chosen⟩ := of_bind_ok ran
  obtain rfl := behind_state looked
  have none : ∀ {p : Parser Item}, Gives NotStruct p → p m = .ok (.struct d, s') →
      structItem g m = .ok (.struct d, s') := by
    intro p gives taken
    exact absurd rfl (gives m _ s' taken d)
  have other : ∀ p ∈ otherReaders g, p m = .ok (.struct d, s') →
      structItem g m = .ok (.struct d, s') := fun p member => none (gives_otherReaders p member)
  revert chosen
  -- In the order of the branches; the ninth one reads structs.
  refine of_ite (other _ ?_) <| of_ite (none (gives_externItem _)) <| of_ite (other _ ?_) <|
    of_ite (other _ ?_) <| of_ite (other _ ?_) <| of_ite (none (gives_unsafeItem _)) <|
    of_ite (other _ ?_) <| of_ite (other _ ?_) <| of_ite id <| of_ite (other _ ?_) <|
    of_ite (other _ ?_) <| of_ite (other _ ?_) <| of_ite (other _ ?_) <| of_ite (other _ ?_) <|
    of_ite (other _ ?_) <| of_ite (other _ ?_) <| none (gives_failExpectedAt _ _)
  all_goals simp [otherReaders]

end Grammar

namespace DeriveInput

open Grammar

variable {g : Grammar}

theorem read_struct {s m n o p s' : Input} {as : List Attribute} {vis : Visibility} {head : DeclHead}
    {body : List FieldDecl × List Token} (attributes : outerAttributes g s = .ok (as, m))
    (seen : visibility m = .ok (vis, n)) (keyword : word "struct" n = .ok ((), o))
    (named : declHead g o = .ok (head, p)) (filled : structBody g p = .ok (body, s')) :
    read g s = .ok ({ kind := .struct, head, conditions := body.2 }, s') := by
  refine bind_ok (discard_ok attributes) (bind_ok (discard_ok seen) (bind_ok (word?_ok keyword) ?_))
  exact bind_ok named (bind_ok filled rfl)

/-- What the reader of items takes for a struct is read as a struct of the same name. -/
theorem exists_read {s s' : Input} {decl : StructDecl} (ran : readItem g s = .ok (.struct decl, s')) :
    ∃ d, read g s = .ok (d, s') ∧ d.kind = .struct ∧ d.head.name = decl.name := by
  obtain ⟨_, _, got, ran⟩ := of_bind_ok ran
  cases got
  obtain ⟨as, m, attributes, ran⟩ := of_bind_ok ran
  obtain ⟨i, n, item, ran⟩ := of_bind_ok ran
  cases i with
  | struct bare =>
    cases ran
    obtain ⟨vis, _, seen, rest⟩ := of_bind_ok (structItem_of_itemBody item)
    obtain ⟨_, _, keyword, rest⟩ := of_bind_ok rest
    obtain ⟨head, _, named, rest⟩ := of_bind_ok rest
    obtain ⟨body, _, filled, rest⟩ := of_bind_ok rest
    cases rest
    exact ⟨_, read_struct attributes seen keyword named filled, rfl, rfl⟩
  | enum | union | impl | trait | mod | simple | shapeless => cases ran

theorem exists_readAll {ts w : List Token} {decl : StructDecl}
    (reads : readAll readItem ts = .ok (.struct decl, w)) :
    ∃ d w', readAll read ts = .ok (d, w') ∧ d.kind = .struct ∧ d.head.name = decl.name := by
  obtain ⟨s, ran, whole, done⟩ := of_runAll_ok reads
  obtain ⟨d, derived, kind, name⟩ := exists_read ran
  exact ⟨d, s.written.reverse, runAll_ok derived whole done, kind, name⟩

end DeriveInput

/-! ### The emitted path -/

def implementationHead (runtime : String) (d : DeriveInput) : List String :=
  ["impl", Token.textAll (Grammar.angled (d.head.parameters.map (·.declared))), runtime,
   ":: BindHost for", d.head.name, Token.textAll (Grammar.angled (d.head.parameters.map (·.used))),
   Token.textAll d.conditions].filter (· ≠ "")

/-- The code is an implementation for a type. It says that the path of the type is the value of
`module_path!()` and a name behind it; the name stands in the code as a literal. -/
def EmitsPath (code modulePath path : String) : Prop :=
  ∃ runtime d literal name,
    code = " ".intercalate (implementationHead runtime d) ++ " " ++
      "\x7b const PATH : & 'static str = concat ! (module_path ! () , \"::\" ," ++ " " ++
      (literal ++ ") ; \x7d") ∧
    ReadsAs literal name ∧ path = modulePath ++ "::" ++ name

theorem intercalate_parts {front : List String} {a b : String} (some' : front ≠ []) (partA : a ≠ "")
    (partB : b ≠ "") :
    " ".intercalate (front ++ [a, b].filter (· ≠ "")) = " ".intercalate front ++ " " ++ a ++ " " ++ b := by
  have behind : [a, b].filter (· ≠ "") = [a, b] := by simp [partA, partB]
  rw [behind, String.intercalate_append_of_ne_nil some' (by simp), String.intercalate_cons_cons,
    String.intercalate_singleton]
  simp only [String.append_assoc]

theorem emitsPath_hostImplementation (runtime : String) (d : DeriveInput) (modulePath : String) :
    EmitsPath (hostImplementation runtime d) modulePath (modulePath ++ "::" ++ plainName d.head.name) := by
  refine ⟨runtime, d, Text.Quoted.literal (plainName d.head.name), plainName d.head.name, ?_,
    readsAs_literal _, rfl⟩
  have head : implementationHead runtime d ≠ [] := by simp [implementationHead]
  have last : Text.Quoted.literal (plainName d.head.name) ++ ") ; \x7d" ≠ "" := by simp
  rw [← intercalate_parts head (by decide) last, implementationHead, ← List.filter_append]
  rfl

/-- The tokens declare a struct of this name. -/
def Declares (ts : List Token) (name : String) : Prop :=
  ∃ decl w, Grammar.readAll Grammar.readItem ts = .ok (.struct decl, w) ∧ decl.name = name

/-- The path that is derived for a struct is that of its module with the struct's name behind it. -/
theorem emitsPath_derivePath {ts : List Token} {name : String} (declares : Declares ts name)
    (e : Environment) (modulePath : String) :
    EmitsPath (derivePath e ts) modulePath (modulePath ++ "::" ++ plainName name) := by
  obtain ⟨decl, w, reads, rfl⟩ := declares
  obtain ⟨d, w', derived, kind, name⟩ := DeriveInput.exists_readAll reads
  have code : derivePath e ts = hostImplementation (derivedRuntime e) d := by
    simp [derivePath, derived, kind]
  rw [code, ← name]
  exact emitsPath_hostImplementation _ d modulePath

end SlotBinding
