import SlotBinding.Grammar.Recursion

/-!
# Texts without their places

`unplaced` forgets the places of a value in its source and keeps all the rest. What can be asked of
tokens at the front of an input does not depend on their places.
-/

namespace SlotBinding

/-- Values that may hold places in a source. -/
class Placed (α : Type) where
  /-- The value without its places. -/
  unplaced : α → α

export Placed (unplaced)

/-- A type that is not treated otherwise holds no places. -/
instance (priority := low) noPlaces {α : Type} : Placed α := ⟨fun a => a⟩

class Placeless (α : Type) [Placed α] : Prop where
  unplaced_eq : ∀ a : α, unplaced a = a

export Placeless (unplaced_eq)

attribute [simp] unplaced_eq

variable {α β : Type}

instance : @Placeless α noPlaces := @Placeless.mk α noPlaces fun _ => rfl

section

variable [Placed α] [Placed β]

instance : Placed (α × β) := ⟨fun p => (unplaced p.1, unplaced p.2)⟩

instance : Placed (Option α) := ⟨Option.map unplaced⟩

instance : Placed (List α) := ⟨List.map unplaced⟩

instance [Placeless α] [Placeless β] : Placeless (α × β) :=
  ⟨fun p => Prod.ext (unplaced_eq p.1) (unplaced_eq p.2)⟩

instance [Placeless α] : Placeless (Option α) where
  unplaced_eq a := by
    cases a with
    | none => rfl
    | some a => exact congrArg some (unplaced_eq a)

instance [Placeless α] : Placeless (List α) where
  unplaced_eq as := (List.map_congr_left fun a _ => unplaced_eq a).trans (List.map_id as)

@[simp] theorem unplaced_pair (a : α) (b : β) : unplaced (a, b) = (unplaced a, unplaced b) := rfl

@[simp] theorem unplaced_none : unplaced (none : Option α) = none := rfl

@[simp] theorem unplaced_some (a : α) : unplaced (some a) = some (unplaced a) := rfl

@[simp] theorem unplaced_nil : unplaced ([] : List α) = [] := rfl

@[simp] theorem unplaced_cons (a : α) (as : List α) :
    unplaced (a :: as) = unplaced a :: unplaced as :=
  rfl

@[simp] theorem unplaced_append (as bs : List α) : unplaced (as ++ bs) = unplaced as ++ unplaced bs :=
  List.map_append

@[simp] theorem unplaced_reverse (as : List α) : unplaced as.reverse = (unplaced as).reverse :=
  List.map_reverse

@[simp] theorem unplaced_take (n : Nat) (as : List α) : unplaced (as.take n) = (unplaced as).take n :=
  List.map_take

@[simp] theorem unplaced_drop (n : Nat) (as : List α) : unplaced (as.drop n) = (unplaced as).drop n :=
  List.map_drop

@[simp] theorem isSome_unplaced (a : Option α) : (unplaced a).isSome = a.isSome :=
  Option.isSome_map

@[simp] theorem length_unplaced (as : List α) : (unplaced as).length = as.length :=
  List.length_map _

@[simp] theorem isEmpty_unplaced (as : List α) : (unplaced as).isEmpty = as.isEmpty :=
  List.isEmpty_map

end

/-! ### Tokens -/

instance : Placed Position := ⟨fun _ => .unknown⟩

namespace Token

def bare : Token → Token
  | word _ text => word .unknown text
  | punct _ char spacing => punct .unknown char spacing
  | literal _ value => literal .unknown value
  | group _ delimiter inner => group .unknown delimiter (bareAll inner)
where
  /-- The trees without the places of their tokens. -/
  bareAll : List Token → List Token
    | [] => []
    | t :: rest => bare t :: bareAll rest

instance : Placed Token := ⟨bare⟩

theorem bareAll_eq (ts : List Token) : bare.bareAll ts = unplaced ts := by
  induction ts with
  | nil => rfl
  | cons t rest ih =>
    rw [bare.bareAll, ih]
    rfl

variable (p : Position)

@[simp] theorem unplaced_word (text : String) : unplaced (word p text) = word .unknown text := rfl

@[simp] theorem unplaced_punct (c : Char) (s : Spacing) :
    unplaced (punct p c s) = punct .unknown c s := rfl

@[simp] theorem unplaced_literal (l : Literal) : unplaced (literal p l) = literal .unknown l := rfl

@[simp] theorem unplaced_group (d : Delimiter) (inner : List Token) :
    unplaced (group p d inner) = group .unknown d (unplaced inner) :=
  congrArg (group .unknown d) (bareAll_eq inner)

@[simp] theorem unplaced_ofWord (text : String) : unplaced (ofWord text) = ofWord text := rfl

@[simp] theorem unplaced_ofGroup (d : Delimiter) (inner : List Token) :
    unplaced (ofGroup d inner) = ofGroup d (unplaced inner) :=
  unplaced_group _ d inner

@[simp] theorem unplaced_ofOperator (cs : List Char) : unplaced (ofOperator cs) = ofOperator cs := by
  fun_induction ofOperator cs with
  | case1 => rfl
  | case2 => rfl
  | case3 _ _ _ ih => simp [ih]

@[simp] theorem unplaced_ofLiteral (l : Literal) : unplaced (ofLiteral l) = ofLiteral l := by
  unfold ofLiteral
  split <;> rfl

@[simp] theorem start_unplaced (t : Token) : (unplaced t).start = .unknown := by
  cases t <;> rfl

mutual

@[simp] theorem size_unplaced (t : Token) : (unplaced t).size = t.size := by
  cases t with
  | word | punct | literal => rfl
  | group p d inner =>
    rw [unplaced_group, size, size, sizeAll_unplaced inner]

@[simp] theorem sizeAll_unplaced (ts : List Token) : size.sizeAll (unplaced ts) = size.sizeAll ts := by
  cases ts with
  | nil => rfl
  | cons t rest =>
    rw [unplaced_cons, size.sizeAll, size.sizeAll, size_unplaced t, sizeAll_unplaced rest]

end

mutual

def same : Token → Token → Bool
  | word p s, word q u => p = q && s = u
  | punct p c s, punct q d u => p = q && c = d && s = u
  | literal p l, literal q m => p = q && l = m
  | group p d ts, group q e us => p = q && d = e && sameAll ts us
  | _, _ => false

def sameAll : List Token → List Token → Bool
  | [], [] => true
  | t :: ts, u :: us => same t u && sameAll ts us
  | _, _ => false

end

mutual

theorem same_iff (t u : Token) : same t u = true ↔ t = u := by
  cases t with
  | group p d ts =>
    cases u with
    | group q e us => simp [same, sameAll_iff ts us, and_assoc]
    | word | punct | literal => simp [same]
  | word | punct | literal => cases u <;> simp [same, and_assoc]

theorem sameAll_iff (ts us : List Token) : sameAll ts us = true ↔ ts = us := by
  cases ts with
  | nil => cases us <;> simp [sameAll]
  | cons t rest =>
    cases us with
    | nil => simp [sameAll]
    | cons u more => simp [sameAll, same_iff t u, sameAll_iff rest more]

end

instance : DecidableEq Token := fun t u => decidable_of_iff _ (same_iff t u)

end Token

/-! ### The front of an input -/

namespace Syntax

instance : Placed Input := ⟨fun s => ⟨unplaced s.rest, unplaced s.written, s.stray⟩⟩

@[simp] theorem rest_unplaced (s : Input) : (unplaced s).rest = unplaced s.rest := rfl

@[simp] theorem written_unplaced (s : Input) : (unplaced s).written = unplaced s.written := rfl

@[simp] theorem stray_unplaced (s : Input) : (unplaced s).stray = s.stray := rfl

@[simp] theorem unplaced_tokens (l : LiteralValue) : unplaced l.tokens = l.tokens := by
  cases l <;> simp [LiteralValue.tokens]

@[simp] theorem afterOperator_unplaced (cs : List Char) (ts : List Token) :
    afterOperator cs (unplaced ts) = unplaced (afterOperator cs ts) := by
  induction cs generalizing ts with
  | nil => rfl
  | cons c more ih =>
    cases ts with
    | nil => cases more <;> rfl
    | cons t rest =>
      cases t with
      | word | literal | group => cases more <;> simp [afterOperator]
      | punct p d s =>
        cases more with
        | nil =>
          simp only [unplaced_cons, Token.unplaced_punct, afterOperator]
          split <;> rfl
        | cons c' more =>
          cases s with
          | alone => simp [afterOperator]
          | joint =>
            simp only [unplaced_cons, Token.unplaced_punct, afterOperator, ih]
            split <;> rfl

@[simp] theorem frontLiteral_unplaced (ts : List Token) :
    frontLiteral (unplaced ts) = unplaced (frontLiteral ts) := by
  cases ts with
  | nil => rfl
  | cons t rest =>
    cases t with
    | literal | group => simp [frontLiteral]
    | word p w =>
      simp only [unplaced_cons, Token.unplaced_word, frontLiteral]
      split
      · rfl
      · split <;> rfl
    | punct p c s =>
      by_cases minus : c = '-'
      · subst minus
        cases rest with
        | nil => rfl
        | cons u rest =>
          cases u with
          | literal q l =>
            simp only [unplaced_cons, Token.unplaced_punct, Token.unplaced_literal, frontLiteral]
            split <;> rfl
          | word | punct | group => simp [frontLiteral]
      · simp [frontLiteral, minus]

theorem lifetime_unplaced (ts : List Token) :
    Expect.lifetime.holds (unplaced ts) = Expect.lifetime.holds ts ∧
      skipTree (unplaced ts) = unplaced (skipTree ts) := by
  cases ts with
  | nil => exact ⟨rfl, rfl⟩
  | cons t rest =>
    cases t with
    | word | literal | group => simp [Expect.holds, skipTree]
    | punct p c s =>
      by_cases quote : c = '\'' ∧ s = .joint
      · obtain ⟨rfl, rfl⟩ := quote
        cases rest with
        | nil => exact ⟨rfl, rfl⟩
        | cons u rest => cases u <;> simp [Expect.holds, skipTree]
      · have other (r : List Token) (q : Position) :
            Expect.lifetime.holds (.punct q c s :: r) = false ∧ skipTree (.punct q c s :: r) = r := by
          unfold Expect.holds skipTree
          constructor <;> split <;> simp_all
        simp [other]

@[simp] theorem skipTree_unplaced (ts : List Token) :
    skipTree (unplaced ts) = unplaced (skipTree ts) :=
  (lifetime_unplaced ts).2

@[simp] theorem Expect.holds_unplaced (e : Expect) (ts : List Token) :
    e.holds (unplaced ts) = e.holds ts := by
  cases e with
  | op | literal => simp [holds]
  | integer | string =>
    simp only [holds, frontLiteral_unplaced]
    rcases frontLiteral ts with _ | ⟨_ | _, _⟩ <;> rfl
  | word | name | anyWord | group =>
    cases ts with
    | nil => rfl
    | cons t rest => cases t <;> simp [holds]
  | lifetime => exact (lifetime_unplaced ts).1

/-! ### Declarations -/

instance : Placed AttributeArgument where
  unplaced
    | .list d inner => .list d (unplaced inner)
    | other => other

instance : Placed Attribute where
  unplaced a := ⟨unplaced a.start, a.path, unplaced a.argument, unplaced a.inside⟩

instance : Placed FieldDecl where
  unplaced f := ⟨unplaced f.attributes, f.visibility, f.name, unplaced f.type⟩

instance : Placed VariantDecl where
  unplaced v := ⟨unplaced v.attributes, v.name, unplaced v.fields⟩

instance : Placed StructDecl where
  unplaced d :=
    ⟨unplaced d.attributes, d.visibility, unplaced d.start, d.name, d.generic, unplaced d.fields⟩

instance : Placed ModuleDecl where
  unplaced d := ⟨unplaced d.attributes, d.visibility, unplaced d.start, d.name⟩

instance : Placed MemberDecl where
  unplaced m := ⟨m.kind, unplaced m.attributes, m.name⟩

namespace Item

def bare : Item → Item
  | struct d => struct (unplaced d)
  | enum as name variants => enum (unplaced as) name (unplaced variants)
  | union as name fields => union (unplaced as) name (unplaced fields)
  | impl as target members => impl (unplaced as) (unplaced target) (unplaced members)
  | trait as name members => trait (unplaced as) name (unplaced members)
  | mod d none => mod (unplaced d) none
  | mod d (some is) => mod (unplaced d) (some (bareAll is))
  | simple kind as name => simple kind (unplaced as) name
  | shapeless => shapeless
where
  /-- The items without the places of their parts. -/
  bareAll : List Item → List Item
    | [] => []
    | i :: rest => bare i :: bareAll rest

instance : Placed Item := ⟨bare⟩

theorem bareAll_eq (is : List Item) : bare.bareAll is = unplaced is := by
  induction is with
  | nil => rfl
  | cons i rest ih =>
    rw [bare.bareAll, ih]
    rfl

@[simp] theorem unplaced_mod (d : ModuleDecl) (content : Option (List Item)) :
    unplaced (mod d content) = mod (unplaced d) (unplaced content) := by
  cases content with
  | none => rfl
  | some is => exact congrArg (fun is => mod (unplaced d) (some is)) (bareAll_eq is)

end Item

instance : Placed SourceFile where
  unplaced f := ⟨unplaced f.attributes, unplaced f.items⟩

end Syntax

end SlotBinding
