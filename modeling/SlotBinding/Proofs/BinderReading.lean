import Mathlib.Data.List.Induction
import SlotBinding.Proofs.AttributeEnds
import SlotBinding.Proofs.ConditionChain
import SlotBinding.Proofs.DecimalMarks
import SlotBinding.Proofs.HostIdentity
import SlotBinding.Proofs.LegibleSources

/-!
# The source of a binder is read back

The statements of a binder are read from the end of its source, one for each binding. The rest follows from the
attributes in front of it. `binder_loses_nothing`: two models with one source agree on all that is generated.
-/

namespace SlotBinding

namespace Member

def ofChars (cs : List Char) : Member :=
  if cs.all Char.isDigit then .index (Nat.ofDigitChars 10 cs 0) else .named (String.ofList cs)

def IsSpelled (f : Member) : Prop := ∀ name, f = .named name → Spelled name

theorem class_digitChar :
    ∀ d < 10, Unicode.isIdentifierStart d.digitChar = false ∧ Unicode.isIdentifierContinue d.digitChar = true := by
  decide

theorem not_digits_of_spelled {name : String} (spelled : Spelled name) :
    name.toList.all Char.isDigit = false := by
  rcases spelled with word | ⟨bare, chars, -⟩
  · cases chars : name.toList with
    | nil => rw [chars] at word; cases word
    | cons x rest =>
      rw [chars, Unicode.isWord, Bool.and_eq_true] at word
      have first : x.isDigit = false := by
        by_contra digit
        obtain ⟨d, small, rfl⟩ := exists_digitChar (by simpa using digit)
        rw [(class_digitChar d small).1] at word
        cases word.1
      rw [List.all_cons, first, Bool.false_and]
  · rw [chars]
    rfl

theorem toList_text_index (n : Nat) : (index n).text.toList = Nat.toDigits 10 n := by simp [text]

theorem ofChars_text {f : Member} (spelled : f.IsSpelled) : ofChars f.text.toList = f := by
  cases f with
  | index n =>
    rw [toList_text_index, ofChars, if_pos (List.all_eq_true.mpr (digits_of_toDigits n).all),
      Nat.ofDigitChars_toDigits (by decide) (by decide)]
  | named name =>
    rw [text, ofChars, not_digits_of_spelled (spelled name rfl)]
    simp

theorem letters_of_text {f : Member} (spelled : f.IsSpelled) : ∀ c ∈ f.text.toList, Token.IsLetter c := by
  cases f with
  | index n =>
    rw [toList_text_index]
    intro c member
    obtain ⟨d, small, rfl⟩ := exists_digitChar ((digits_of_toDigits n).all c member)
    exact Or.inr (class_digitChar d small).2
  | named name => exact Token.letters_of_spelled (spelled name rfl)

end Member

theorem phrases_cons (p : String) {ps : List String} (nonempty : ps ≠ []) :
    phrases (p :: ps) = p ++ " " ++ phrases ps := by
  cases ps with
  | nil => exact absurd rfl nonempty
  | cons q qs => exact String.intercalate_cons_cons

theorem toList_phrases_cons (p : String) (ps : List String) :
    (phrases (p :: ps)).toList = p.toList ++ ps.flatMap fun s => ' ' :: s.toList := by
  induction ps generalizing p with
  | nil => simp [phrases]
  | cons q ps ih =>
    rw [phrases_cons p (List.cons_ne_nil q ps), String.toList_append, String.toList_append, ih]
    simp

theorem toList_phrases_append (ps : List String) {qs : List String} (nonempty : qs ≠ []) :
    (phrases (ps ++ qs)).toList = (ps.flatMap fun s => s.toList ++ [' ']) ++ (phrases qs).toList := by
  induction ps with
  | nil => rfl
  | cons p ps ih =>
    rw [List.cons_append, phrases_cons p (by simp [nonempty]), String.toList_append, String.toList_append, ih]
    simp

namespace Renderer

def fetching (r : Renderer) : String := " = " ++ r.runtime ++ " :: __internal :: fetch (source , "

/-- Whether a text ends with the sign of a number, and what stands in front of it. The text is reversed. -/
def takeSign : List Char → Bool × List Char
  | ' ' :: '-' :: cs => (true, cs)
  | cs => (false, cs)

/-- The statement at the end of a text, and what stands in front of it. The text is reversed. -/
def lastStatement? (r : Renderer) (cs : List Char) : Option ((Int32 × Member) × List Char) := do
  let cs ← cs.dropPrefix? "i32 , Self :: NAME) ? ;".toList.reverse
  let digits := (cs.takeWhile Char.isDigit).reverse
  let (negative, cs) := takeSign (cs.dropWhile Char.isDigit)
  let cs ← cs.dropPrefix? r.fetching.toList.reverse
  let name := (cs.takeWhile (· ≠ ' ')).reverse
  let cs ← (cs.dropWhile (· ≠ ' ')).dropPrefix? " host . ".toList.reverse
  return ((Int32.ofInt (signedValue negative digits), .ofChars name), cs)

/-- The statements at the end of a text, at most so many. The text is reversed. -/
def lastStatements (r : Renderer) : Nat → List Char → List (Int32 × Member)
  | 0, _ => []
  | n + 1, cs =>
    match r.lastStatement? cs with
    | some (s, before) => r.lastStatements n before ++ [s]
    | none => []

def readStatements (r : Renderer) (text : String) : List (Int32 × Member) :=
  match text.toList.reverse.dropPrefix? " Ok (()) \x7d \x7d".toList.reverse with
  | some cs => r.lastStatements text.length cs
  | none => []

/-! ### Reading one statement -/

theorem toList_slotLiteral (slot : Int32) :
    (slotLiteral slot).toList =
      (if slot.toInt < 0 then ['-', ' '] else []) ++ (Nat.toDigits 10 slot.toInt.natAbs ++ "i32".toList) := by
  by_cases negative : slot.toInt < 0 <;> simp [slotLiteral, negative]

theorem ofInt_signedValue (slot : Int32) :
    Int32.ofInt (signedValue (slot.toInt < 0) (Nat.toDigits 10 slot.toInt.natAbs)) = slot := by
  rw [signedValue_of_natAbs (Nat.ofDigitChars_toDigits (by decide) (by decide)), Int32.ofInt_toInt]

theorem toList_statement (r : Renderer) (slot : Int32) (f : BoundField) :
    ' ' :: (r.statement slot f).toList =
      " host . ".toList ++ (f.name.toList ++ (r.fetching.toList ++
        ((if slot.toInt < 0 then ['-', ' '] else []) ++
          (Nat.toDigits 10 slot.toInt.natAbs ++ "i32 , Self :: NAME) ? ;".toList)))) := by
  simp [statement, toList_phrases_cons, toList_slotLiteral, fetching]

theorem dropPrefix?_append (front rest : List Char) : (front ++ rest).dropPrefix? front = some rest :=
  List.dropPrefix?_append_of_beq rest (beq_self_eq_true front)

theorem span_stop {p : Char → Bool} {xs : List Char} (all : ∀ c ∈ xs, p c = true) {y : Char} (stops : p y = false)
    (ys : List Char) : (xs ++ y :: ys).takeWhile p = xs ∧ (xs ++ y :: ys).dropWhile p = y :: ys := by
  rw [List.takeWhile_append_of_pos all, List.dropWhile_append_of_pos all]
  simp [stops]

theorem exists_fetching (r : Renderer) : ∃ rest, r.fetching.toList.reverse = ' ' :: ',' :: rest := by
  refine ⟨" :: __internal :: fetch (source ".toList.reverse ++ (" = " ++ r.runtime).toList.reverse, ?_⟩
  simp [fetching]

theorem takeSign_append (r : Renderer) (negative : Bool) (rest : List Char) :
    takeSign ((if negative then [' ', '-'] else []) ++ (r.fetching.toList.reverse ++ rest)) =
      (negative, r.fetching.toList.reverse ++ rest) := by
  obtain ⟨more, front⟩ := r.exists_fetching
  cases negative
  · rw [front]
    rfl
  · rfl

theorem lastStatement?_statement (r : Renderer) (slot : Int32) {f : BoundField} (spelled : f.member.IsSpelled)
    (before : List Char) :
    r.lastStatement? (before ++ ' ' :: (r.statement slot f).toList).reverse =
      some ((slot, f.member), before.reverse) := by
  let negative : Bool := slot.toInt < 0
  let digits := Nat.toDigits 10 slot.toInt.natAbs
  let inFront := " host . ".toList.reverse ++ before.reverse
  let behindName := r.fetching.toList.reverse ++ (f.member.text.toList.reverse ++ inFront)
  have text : (before ++ ' ' :: (r.statement slot f).toList).reverse =
      "i32 , Self :: NAME) ? ;".toList.reverse ++
        (digits.reverse ++ ((if negative then [' ', '-'] else []) ++ behindName)) := by
    rw [toList_statement]
    by_cases sign : slot.toInt < 0 <;> simp [negative, digits, behindName, inFront, sign, BoundField.name]
  have isDigit : ∀ c ∈ digits.reverse, c.isDigit = true := fun c member =>
    (digits_of_toDigits _).all c (List.mem_reverse.mp member)
  have notBlank : ∀ c ∈ f.member.text.toList.reverse, decide (c ≠ ' ') = true := by
    intro c member
    refine decide_eq_true fun blank => ?_
    have letter := Member.letters_of_text spelled c (List.mem_reverse.mp member)
    exact Token.not_isLetter ' ' (by simp) (blank ▸ letter)
  obtain ⟨more, blank⟩ : ∃ more, (if negative then [' ', '-'] else []) ++ behindName = ' ' :: more := by
    obtain ⟨rest, front⟩ := r.exists_fetching
    by_cases sign : negative
    · exact ⟨_, by rw [if_pos sign]; rfl⟩
    · exact ⟨_, by rw [if_neg sign, List.nil_append]; simp only [behindName, front]; rfl⟩
  obtain ⟨host, inFront_eq⟩ : ∃ host, inFront = ' ' :: host := ⟨_, rfl⟩
  have number := span_stop isDigit (y := ' ') rfl more
  have name := span_stop notBlank (y := ' ') rfl host
  rw [← blank] at number
  rw [← inFront_eq] at name
  have sign : takeSign ((if negative then [' ', '-'] else []) ++ behindName) = (negative, behindName) :=
    takeSign_append r negative _
  have fetched : behindName.dropPrefix? r.fetching.toList.reverse = some (f.member.text.toList.reverse ++ inFront) :=
    dropPrefix?_append _ _
  have begun : inFront.dropPrefix? " host . ".toList.reverse = some before.reverse := dropPrefix?_append _ _
  rw [text, lastStatement?, dropPrefix?_append]
  simp only [Option.bind_eq_bind, Option.bind_some, number.1, number.2, sign, fetched, name.1, name.2, begun,
    List.reverse_reverse]
  rw [show Int32.ofInt (signedValue negative digits) = slot from ofInt_signedValue slot,
    Member.ofChars_text spelled]
  rfl

/-! ### Reading all statements -/

/-- The characters of some statements, each behind a blank. -/
def statementChars (r : Renderer) (bs : List (Int32 × BoundField)) : List Char :=
  bs.flatMap fun b => ' ' :: (r.statement b.1 b.2).toList

def EndsReading (r : Renderer) (phrase : String) : Prop :=
  ∀ before, r.lastStatement? (before ++ phrase.toList).reverse = none

theorem endsReading_dropSource (r : Renderer) : r.EndsReading "let _ = source ;" := by
  intro before
  have other : ("let _ = source ;".toList.reverse ++ before.reverse).dropPrefix?
      "i32 , Self :: NAME) ? ;".toList.reverse = none := rfl
  rw [List.reverse_append, lastStatement?, other]
  rfl

theorem endsReading_narrowing (r : Renderer) (typePath : String) : r.EndsReading (r.narrowing typePath) := by
  intro before
  have ends : (r.narrowing typePath).toList =
      (r.runtime ++ " :: __internal :: downcast_host :: < " ++ typePath ++ " > ").toList ++
        "(host , Self :: NAME) ? ;".toList := by
    simp [narrowing, toList_phrases_cons]
  have other (front : List Char) : ("(host , Self :: NAME) ? ;".toList.reverse ++ front).dropPrefix?
      "i32 , Self :: NAME) ? ;".toList.reverse = none := rfl
  rw [ends, ← List.append_assoc, List.reverse_append, lastStatement?, other]
  rfl

theorem lastStatements_statements {r : Renderer} {phrase : String} (ends : r.EndsReading phrase) (before : List Char)
    {bs : List (Int32 × BoundField)} (spelled : ∀ b ∈ bs, b.2.member.IsSpelled) {n : Nat}
    (enough : bs.length ≤ n) :
    r.lastStatements n (before ++ phrase.toList ++ r.statementChars bs).reverse =
      bs.map fun b => (b.1, b.2.member) := by
  induction bs using List.reverseRecOn generalizing n with
  | nil =>
    cases n with
    | zero => rfl
    | succ n =>
      rw [statementChars, List.flatMap_nil, List.append_nil, lastStatements, ends before]
      rfl
  | append_singleton bs b ih =>
    cases n with
    | zero => simp at enough
    | succ n =>
      have last : r.statementChars (bs ++ [b]) = r.statementChars bs ++ ' ' :: (r.statement b.1 b.2).toList := by
        simp [statementChars]
      have fewer : bs.length ≤ n := by
        rw [List.length_append, List.length_singleton] at enough
        omega
      rw [last, ← List.append_assoc, lastStatements, lastStatement?_statement r b.1 (spelled b (by simp))]
      simp only
      rw [ih (fun c member => spelled c (List.mem_append_left _ member)) fewer]
      simp

theorem exists_last (r : Renderer) (m : HostModel) (typePath : String) :
    ∃ opening last, r.EndsReading last ∧
      r.body m typePath = opening ++ last :: m.bindings.toList.map fun b => r.statement b.1 b.2 := by
  unfold body
  split
  · rename_i empty
    refine ⟨["let _ =", r.narrowing typePath], _, r.endsReading_dropSource, ?_⟩
    rw [InsertionMap.toList_of_isEmpty empty]
    rfl
  · exact ⟨["let host ="], _, r.endsReading_narrowing typePath, rfl⟩

theorem length_le_statementChars (r : Renderer) (bs : List (Int32 × BoundField)) :
    bs.length ≤ (r.statementChars bs).length := by
  induction bs with
  | nil => simp
  | cons b bs ih =>
    rw [statementChars, List.flatMap_cons, List.length_append, List.length_cons, List.length_cons,
      ← statementChars]
    omega

theorem binder_eq_ok {r : Renderer} {m : HostModel} {text : String} (made : r.binder m = .ok text) :
    ∃ ident path, m.binderIdent = .ok ident ∧ m.typePath = .ok path ∧
      text = phrases (declaration m ident ++ nameConstant m ident ++ r.contract m ident path) := by
  obtain ⟨ident, identified, made⟩ := bind_eq_ok made
  obtain ⟨path, typed, made⟩ := bind_eq_ok made
  exact ⟨ident, path, identified, typed, (Except.ok.inj made).symm⟩

/-- The source of a binder ends with its statements and the end of its last method. -/
theorem exists_front {r : Renderer} {m : HostModel} {text : String} (made : r.binder m = .ok text) :
    ∃ front last, r.EndsReading last ∧
      text.toList = front ++ last.toList ++ r.statementChars m.bindings.toList ++ " Ok (()) \x7d \x7d".toList := by
  obtain ⟨ident, path, -, -, source⟩ := binder_eq_ok made
  obtain ⟨opening, last, ends, body⟩ := r.exists_last m path
  have behind (front middle header : List String) :
      front ++ (middle ++ (header ++ r.body m path ++ ["Ok (()) \x7d"]) ++ ["\x7d"]) =
        (front ++ middle ++ header ++ opening) ++
          (last :: (m.bindings.toList.map (fun b => r.statement b.1 b.2) ++ ["Ok (()) \x7d", "\x7d"])) := by
    simp [body]
  have ending : (m.bindings.toList.map (fun b => r.statement b.1 b.2) ++ ["Ok (()) \x7d", "\x7d"]).flatMap
      (fun s => ' ' :: s.toList) = r.statementChars m.bindings.toList ++ " Ok (()) \x7d \x7d".toList := by
    rw [List.flatMap_append, List.flatMap_map]
    rfl
  rw [contract, injection, behind] at source
  rw [source, toList_phrases_append _ (List.cons_ne_nil _ _), toList_phrases_cons, ending, ← List.append_assoc,
    ← List.append_assoc]
  exact ⟨_, last, ends, rfl⟩

theorem readStatements_binder {r : Renderer} {m : HostModel} {text : String} (made : r.binder m = .ok text)
    (spelled : ∀ b ∈ m.bindings.toList, b.2.member.IsSpelled) :
    r.readStatements text = m.bindings.toList.map fun b => (b.1, b.2.member) := by
  obtain ⟨front, last, ends, chars⟩ := exists_front made
  have enough : m.bindings.toList.length ≤ text.length := by
    have few := r.length_le_statementChars m.bindings.toList
    rw [← String.length_toList, chars]
    simp only [List.length_append]
    omega
  rw [readStatements, chars, List.reverse_append, dropPrefix?_append]
  exact lastStatements_statements ends front spelled enough

/-! ### Attributes in front of the struct -/

def slotText (b : Int32 × BoundField) : String :=
  " - slot " ++ toString b.1.toInt ++ ": `" ++ b.2.name ++ ": " ++ Token.textAll b.2.type ++ "`"

def docTokens (line : String) : List Token :=
  [.ofWord "doc", .punct .unknown '=' .alone, .literal .unknown ⟨.string, Text.Quoted.literal line⟩]

def attributeTokens (m : HostModel) : List (List Token) :=
  m.cfg.map (·.inside) ++
    (docTokens (" Generated binder for `" ++ m.qualifiedName ++ "`.") ::
      (m.bindings.toList.map (fun b => docTokens (slotText b)) ++
        [[.ofWord "doc", .ofGroup .paren [.ofWord "hidden"]],
          [.ofWord "allow", .ofGroup .paren [.ofWord "non_camel_case_types"]]]))

theorem toList_textAll_docTokens (line : String) :
    (Token.textAll (docTokens line)).toList = "doc = ".toList ++ (Text.Quoted.literal line).toList := by
  simp [docTokens, Token.textAll, Token.text, Token.gapAfter, Token.ofWord]

theorem bracketed_docTokens (line : String) : Token.bracketed (docTokens line) = docLine line := by
  apply String.toList_inj.mp
  simp [Token.bracketed, toList_textAll_docTokens, docLine]

theorem legible_docTokens (line : String) : Token.Legible (docTokens line) :=
  .word (Or.inl (by decide)) (.punct (by decide +kernel) (by decide) (.literal (Literal.legible_literal line) .nil))

theorem legible_attributeTokens {m : HostModel} (legible : ∀ a ∈ m.cfg, Token.Legible a.inside) :
    ∀ ts ∈ attributeTokens m, Token.Legible ts := by
  intro ts member
  simp only [attributeTokens, List.mem_append, List.mem_cons, List.mem_map, List.not_mem_nil, or_false] at member
  rcases member with ⟨a, among, rfl⟩ | rfl | ⟨b, -, rfl⟩ | rfl | rfl
  · exact legible a among
  · exact legible_docTokens _
  · exact legible_docTokens _
  · exact .word (Or.inl (by decide)) (.group (.word (Or.inl (by decide)) .nil) .nil)
  · exact .word (Or.inl (by decide)) (.group (.word (Or.inl (by decide)) .nil) .nil)

theorem conditions_chars (m : HostModel) :
    (conditions m).flatMap (fun s => s.toList ++ [' ']) = Token.attributeChars (m.cfg.map (·.inside)) := by
  have texts : conditions m = (m.cfg.map (·.inside)).map Token.bracketed := by
    rw [conditions, List.map_map]
    exact List.map_congr_left fun a _ => a.text_eq
  rw [texts, List.flatMap_map, Token.attributeChars]

theorem attributeChars_attributeTokens (m : HostModel) :
    Token.attributeChars (attributeTokens m) =
      (conditions m ++ [docLine (" Generated binder for `" ++ m.qualifiedName ++ "`.")] ++
          m.bindings.toList.map (fun b => slotDoc b.1 b.2)).flatMap (fun s => s.toList ++ [' ']) ++
        "# [doc (hidden)] # [allow (non_camel_case_types)] ".toList := by
  have hidden : Token.attributeChars [[.ofWord "doc", .ofGroup .paren [.ofWord "hidden"]],
      [.ofWord "allow", .ofGroup .paren [.ofWord "non_camel_case_types"]]] =
      "# [doc (hidden)] # [allow (non_camel_case_types)] ".toList := by
    simp [Token.attributeChars, Token.bracketed, Token.textAll, Token.text, Token.gapAfter, Token.openText,
      Token.closeText, Token.ofWord, Token.ofGroup]
  have docs (b : Int32 × BoundField) : Token.bracketed (docTokens (slotText b)) = slotDoc b.1 b.2 :=
    bracketed_docTokens _
  have append (ts us : List (List Token)) :
      Token.attributeChars (ts ++ us) = Token.attributeChars ts ++ Token.attributeChars us := List.flatMap_append
  rw [attributeTokens, append, ← conditions_chars, Token.attributeChars, List.flatMap_cons,
    ← Token.attributeChars, append, hidden, bracketed_docTokens, Token.attributeChars, List.flatMap_map]
  simp only [docs, List.flatMap_append, List.flatMap_map, List.flatMap_singleton, List.append_assoc]

theorem exists_items {r : Renderer} {m : HostModel} {text : String} (made : r.binder m = .ok text) :
    ∃ ident rest, m.binderIdent = .ok ident ∧
      text.toList = Token.attributeChars (attributeTokens m) ++ ("pub struct ".toList ++
        (ident.toList ++ ' ' :: ';' :: ' ' :: (Token.attributeChars (m.cfg.map (·.inside)) ++ 'i' :: rest))) := by
  obtain ⟨ident, path, identified, -, source⟩ := binder_eq_ok made
  obtain ⟨others, items⟩ : ∃ others, declaration m ident ++ nameConstant m ident ++ r.contract m ident path =
      (conditions m ++ [docLine (" Generated binder for `" ++ m.qualifiedName ++ "`.")] ++
          m.bindings.toList.map (fun b => slotDoc b.1 b.2)) ++
        ("# [doc (hidden)] # [allow (non_camel_case_types)] pub struct" :: ident :: ";" ::
          (conditions m ++ "impl" :: others)) :=
    ⟨[ident, "\x7b pub const NAME : & str =", Text.Quoted.literal m.binderName, "; \x7d"] ++ r.contract m ident path,
      by simp [declaration, nameConstant]⟩
  refine ⟨ident, "mpl".toList ++ others.flatMap (fun s => ' ' :: s.toList), identified, ?_⟩
  have struct : "# [doc (hidden)] # [allow (non_camel_case_types)] pub struct".toList ++ [' '] =
      "# [doc (hidden)] # [allow (non_camel_case_types)] ".toList ++ "pub struct ".toList := by
    decide +kernel
  have blank : " ".toList = [' '] := rfl
  have ends : ";".toList = [';'] := rfl
  have impl : "impl".toList = 'i' :: "mpl".toList := rfl
  rw [source, items, toList_phrases_append _ (List.cons_ne_nil _ _), attributeChars_attributeTokens,
    phrases_cons _ (List.cons_ne_nil _ _), phrases_cons _ (List.cons_ne_nil _ _), phrases_cons _ (by simp)]
  simp only [String.toList_append, toList_phrases_append _ (List.cons_ne_nil _ _), toList_phrases_cons,
    conditions_chars, blank, ends, impl, struct]
  simp only [List.append_assoc, List.cons_append, List.nil_append]

end Renderer

/-! ### Texts told apart -/

theorem split_at {x : Char} {a b as bs : List Char} (freeA : x ∉ a) (freeB : x ∉ b)
    (same : a ++ x :: as = b ++ x :: bs) : a = b ∧ as = bs := by
  obtain rfl : a = b := eq_of_front freeA freeB ⟨as, by rw [← same]; simp⟩
  exact ⟨rfl, (List.cons.inj (List.append_cancel_left same)).2⟩

theorem literal_injective {s t : String} (same : Text.Quoted.literal s = Text.Quoted.literal t) : s = t := by
  have value := stringValue?_literal s
  rw [same, stringValue?_literal] at value
  exact (Option.some.inj value).symm

theorem map_eq_map_of_imp {α β γ : Type} {f : α → β} {g : α → γ} {xs ys : List α}
    (imp : ∀ x ∈ xs, ∀ y ∈ ys, f x = f y → g x = g y) (same : xs.map f = ys.map f) : xs.map g = ys.map g := by
  induction xs generalizing ys with
  | nil => rw [List.map_eq_nil_iff.mp same.symm]
  | cons x xs ih =>
    obtain ⟨y, ys, rfl, first, others⟩ := List.map_eq_cons_iff.mp same.symm
    rw [List.map_cons, List.map_cons, imp x (by simp) y (by simp) first.symm,
      ih (fun x member y among => imp x (by simp [member]) y (by simp [among])) others.symm]

namespace Decimal

variable {v w : Int} {text : String}

theorem colon_not_mem (decimal : Decimal v text) : ':' ∉ text.toList := by
  obtain ⟨ds, digits, -, chars⟩ := decimal
  have free : ':' ∉ ds := fun member => absurd (digits.all ':' member) (by decide)
  rw [chars]
  split
  · simpa using free
  · exact free

theorem unique (first : Decimal v text) (second : Decimal w text) : v = w := by
  obtain ⟨ds, digits, absolute, chars⟩ := first
  obtain ⟨es, digits', absolute', chars'⟩ := second
  have unsigned {ds es : List Char} (digits : Digits ds) : ds ≠ '-' :: es := by
    rintro rfl
    exact absurd (digits.all '-' (by simp)) (by decide)
  rw [chars] at chars'
  by_cases negative : v < 0 <;> by_cases negative' : w < 0
  all_goals simp only [negative, negative', if_true, if_false] at chars'
  · obtain rfl : ds = es := (List.cons.inj chars').2
    omega
  · exact absurd chars'.symm (unsigned digits')
  · exact absurd chars' (unsigned digits)
  · obtain rfl : ds = es := chars'
    omega

end Decimal

/-- What of a binding comes into the source. -/
def bindingView (b : Int32 × BoundField) : Int32 × Member × String := (b.1, b.2.member, Token.textAll b.2.type)

theorem bindingView_eq {b c : Int32 × BoundField} (spelledB : b.2.member.IsSpelled) (spelledC : c.2.member.IsSpelled)
    (same : Renderer.slotText b = Renderer.slotText c) : bindingView b = bindingView c := by
  have free {f : Member} (spelled : f.IsSpelled) : ':' ∉ f.text.toList := fun member =>
    Token.not_isLetter ':' (by simp) (Member.letters_of_text spelled ':' member)
  have afterSlot : ": `".toList = ':' :: " `".toList := rfl
  have afterName : ": ".toList = ':' :: " ".toList := rfl
  have chars := congrArg String.toList same
  simp only [Renderer.slotText, String.toList_append, List.append_assoc, afterSlot, afterName,
    List.cons_append] at chars
  obtain ⟨slots, chars⟩ := split_at (decimal_toString b.1.toInt).colon_not_mem
    (decimal_toString c.1.toInt).colon_not_mem (List.append_cancel_left chars)
  obtain ⟨names, chars⟩ := split_at (free spelledB) (free spelledC) (List.append_cancel_left chars)
  have types := List.append_cancel_right (List.append_cancel_left chars)
  have slot : b.1.toInt = c.1.toInt := by
    have other := decimal_toString c.1.toInt
    rw [← String.toList_inj.mp slots] at other
    exact (decimal_toString b.1.toInt).unique other
  have member : b.2.member = c.2.member := by
    rw [← Member.ofChars_text spelledB, ← Member.ofChars_text spelledC, names]
  rw [bindingView, bindingView, Int32.toInt_inj.mp slot, member, String.toList_inj.mp types]

namespace HostModel

/-- The conditions and the names of the fields are spelled as source spells them, as those of the hosts of a crate
always are (`Generator.legible_of_scan`). Without that two models may have one source (`binder_of_stray_quotes`). -/
structure Legible (m : HostModel) : Prop where
  conditions : ∀ a ∈ m.cfg, Token.Legible a.inside
  members : ∀ b ∈ m.bindings.toList, b.2.member.IsSpelled

theorem plain_identity {m : HostModel} {ident : String} (identified : m.binderIdent = .ok ident) :
    m.identity.Plain := by
  intro s among colon
  rcases of_mem_segments identified (s := s) among colon with sign | letter
  · cases sign
  · revert letter
    decide

end HostModel

namespace Renderer

theorem attributes_agree {r : Renderer} {m n : HostModel} {text : String} (legibleM : m.Legible)
    (legibleN : n.Legible) (madeM : r.binder m = .ok text) (madeN : r.binder n = .ok text) :
    (m.cfg.map (·.inside)).map Token.textAll = (n.cfg.map (·.inside)).map Token.textAll ∧
      (attributeTokens m).map Token.textAll = (attributeTokens n).map Token.textAll := by
  obtain ⟨identM, restM, identifiedM, charsM⟩ := exists_items madeM
  obtain ⟨identN, restN, identifiedN, charsN⟩ := exists_items madeN
  have noBlank {m : HostModel} {ident : String} (identified : m.binderIdent = .ok ident) : ' ' ∉ ident.toList :=
    fun member => by
      rcases Identifier.of_mem_ofText identified member with sign | letter
      · cases sign
      · revert letter
        decide
  have notSign (rest : List Char) : ("pub struct ".toList ++ rest).head? ≠ some '#' := by
    rw [List.head?_append_of_ne_nil _ (by decide)]
    decide
  rw [charsM] at charsN
  obtain ⟨attributes, structs⟩ := Token.attributes_unique (legible_attributeTokens legibleM.conditions)
    (legible_attributeTokens legibleN.conditions) (notSign _) (notSign _) charsN
  obtain ⟨-, items⟩ := split_at (noBlank identifiedM) (noBlank identifiedN) (List.append_cancel_left structs)
  have legible {m : HostModel} (legible : m.Legible) : ∀ ts ∈ m.cfg.map (·.inside), Token.Legible ts := by
    intro ts member
    obtain ⟨a, among, rfl⟩ := List.mem_map.mp member
    exact legible.conditions a among
  obtain ⟨conditions, -⟩ := Token.attributes_unique (legible legibleM) (legible legibleN) (by simp) (by simp)
    (List.cons.inj (List.cons.inj items).2).2
  exact ⟨conditions, attributes⟩

/-- The statements in the source of a binder are those of the bindings, in order. A model with the same source
has the same names, the same conditions and the same bindings. -/
theorem binder_loses_nothing {r : Renderer} {m : HostModel} {text : String} (legible : m.Legible)
    (made : r.binder m = .ok text) :
    r.readStatements text = m.bindings.toList.map (fun b => (b.1, b.2.member)) ∧
      ∀ n : HostModel, n.Legible → r.binder n = .ok text →
        n.qualifiedName = m.qualifiedName ∧ n.typePath = m.typePath ∧
        n.cfg.map (·.text) = m.cfg.map (·.text) ∧
        n.bindings.toList.map bindingView = m.bindings.toList.map bindingView := by
  refine ⟨readStatements_binder made legible.members, fun n legibleN madeN => ?_⟩
  obtain ⟨conditions, attributes⟩ := attributes_agree legibleN legible madeN made
  rw [attributeTokens, attributeTokens, List.map_append, List.map_append, conditions] at attributes
  obtain ⟨line, others⟩ := List.cons.inj (List.append_cancel_left attributes)
  have lines {s t : String} (same : Token.textAll (docTokens s) = Token.textAll (docTokens t)) : s = t := by
    have chars := congrArg String.toList same
    rw [toList_textAll_docTokens, toList_textAll_docTokens] at chars
    exact literal_injective (String.toList_inj.mp (List.append_cancel_left chars))
  have names : n.qualifiedName = m.qualifiedName := by
    have whole := congrArg String.toList (lines line)
    simp only [String.toList_append, List.append_assoc] at whole
    exact String.toList_inj.mp (List.append_cancel_right (List.append_cancel_left whole))
  obtain ⟨_, _, identifiedM, -⟩ := binder_eq_ok made
  obtain ⟨_, _, identifiedN, -⟩ := binder_eq_ok madeN
  have identity : n.identity = m.identity := by
    apply HostIdentity.eq_of_qualifiedName (HostModel.plain_identity identifiedN) (HostModel.plain_identity identifiedM)
    rw [← HostModel.toList_qualifiedName, ← HostModel.toList_qualifiedName, names]
  refine ⟨names, ?path, ?conditions, ?bindings⟩
  case path =>
    obtain ⟨-, modules, name⟩ := HostIdentity.mk.inj identity
    rw [HostModel.typePath, HostModel.typePath, HostModel.pathSegments, HostModel.pathSegments, modules, name]
  case conditions =>
    have texts (m : HostModel) : m.cfg.map (·.text) =
        ((m.cfg.map (·.inside)).map Token.textAll).map fun inside => "# [" ++ inside ++ "]" := by
      rw [List.map_map, List.map_map]
      exact List.map_congr_left fun a _ => a.text_eq
    rw [texts, texts, conditions]
  case bindings =>
    rw [List.map_append, List.map_append, List.map_map, List.map_map] at others
    refine map_eq_map_of_imp (fun b memberB c memberC same => ?_) (List.append_cancel_right others)
    exact bindingView_eq (legibleN.members b memberB) (legible.members c memberC) (lines same)

/-- A host with a condition that holds brackets, a quoted bracket and a lifetime, a negative slot, and a raw and
a numbered member. -/
theorem binder_loses_nothing_of_bracketed_condition :
    let r : Renderer := { runtime := ":: viewbind" }
    let bindings : BindingMap :=
      ⟨[(-4, ⟨.named "r#type", [.ofWord "Label"]⟩), (7, ⟨.index 0, [.ofWord "u32"]⟩)]⟩
    ∃ conditions ts text,
      Grammar.readText Grammar.outerAttributes "#[cfg([\"]\" 'a])]" = .ok (conditions, ts) ∧
      let m : HostModel :=
        { crateName := "app", modulePath := ["ui"], name := "Home", cfg := conditions, bindings }
      m.Legible ∧ r.binder m = .ok text ∧ r.readStatements text = [(-4, .named "r#type"), (7, .index 0)] ∧
      ∀ n : HostModel, n.Legible → r.binder n = .ok text →
        n.qualifiedName = "app::ui::Home" ∧ n.cfg.map (·.text) = ["# [cfg ([\"]\" 'a])]"] ∧
        n.bindings.toList.map bindingView = [(-4, .named "r#type", "Label"), (7, .index 0, "u32")] := by
  intro r bindings
  have checked : (Grammar.readText Grammar.outerAttributes "#[cfg([\"]\" 'a])]").toOption.any (fun a =>
      a.1.map (·.text) == ["# [cfg ([\"]\" 'a])]"]) = true := by
    decide +kernel
  obtain ⟨⟨conditions, ts⟩, read, shown⟩ := exists_ok_of_any checked
  have texts := beq_iff_eq.mp shown
  let bare : HostModel := { crateName := "app", modulePath := ["ui"], name := "Home", cfg := [], bindings }
  let m : HostModel := { bare with cfg := conditions }
  have legible : m.Legible := by
    constructor
    · exact Grammar.legible_of_readText read
    · intro b among name named
      rcases List.mem_pair.mp among with rfl | rfl
      · obtain rfl : "r#type" = name := Member.named.inj named
        exact Or.inr ⟨"type".toList, rfl, by decide, by decide⟩
      · cases named
  -- Neither name depends on the conditions.
  have ident : m.binderIdent = .ok "app__ui__Home__Bind" :=
    (show m.binderIdent = bare.binderIdent from rfl).trans (by decide +kernel)
  have path : m.typePath = .ok "crate :: ui :: Home" :=
    (show m.typePath = bare.typePath from rfl).trans (by decide +kernel)
  obtain ⟨text, made⟩ : ∃ text, r.binder m = .ok text := ⟨_, by rw [binder, ident, path]; rfl⟩
  obtain ⟨statements, others⟩ := binder_loses_nothing legible made
  have names : m.qualifiedName = "app::ui::Home" :=
    (show m.qualifiedName = bare.qualifiedName from rfl).trans (by decide +kernel)
  have views : bindings.toList.map bindingView = [(-4, .named "r#type", "Label"), (7, .index 0, "u32")] := by
    decide +kernel
  refine ⟨conditions, ts, text, read, legible, made, statements, fun n legibleN madeN => ?_⟩
  obtain ⟨sameNames, -, sameConditions, sameViews⟩ := others n legibleN madeN
  exact ⟨sameNames.trans names, sameConditions.trans texts, sameViews.trans views⟩

/-- Outside of a source a quote can stand that nothing closes. Two conditions with such quotes then have one text
with a single condition on a literal. -/
theorem binder_of_stray_quotes :
    let r : Renderer := { runtime := ":: viewbind" }
    let cfg (inside : List Token) : Syntax.Attribute := ⟨.unknown, ⟨false, ["cfg"]⟩, .none, inside⟩
    let host (conditions : List Syntax.Attribute) : HostModel :=
      { crateName := "app", modulePath := [], name := "Home", cfg := conditions, bindings := {} }
    let one := host [cfg [.ofWord "a", .literal .unknown ⟨.string, Text.Quoted.literal "] # ["⟩, .ofWord "b"]]
    let two := host [cfg [.ofWord "a", .punct .unknown '"' .alone], cfg [.punct .unknown '"' .alone, .ofWord "b"]]
    one.Legible ∧ (∃ text, r.binder one = .ok text ∧ r.binder two = .ok text) ∧
      one.cfg.length ≠ two.cfg.length := by
  intro r cfg host one two
  have inside :
      Token.Legible [.ofWord "a", .literal .unknown ⟨.string, Text.Quoted.literal "] # ["⟩, .ofWord "b"] :=
    .word (.inl (by decide)) (.literal (Literal.legible_literal _) (.word (.inl (by decide)) .nil))
  have shared : (r.binder one).toOption.any (fun text => r.binder two = .ok text) = true := by decide +kernel
  obtain ⟨text, made, same⟩ := exists_ok_of_any shared
  exact ⟨⟨List.forall_mem_singleton.mpr inside, nofun⟩, ⟨text, made, of_decide_eq_true same⟩, by decide⟩

end Renderer

end SlotBinding
