import SlotBinding.Grammar.SourceFile
import SlotBinding.Proofs.GrammarRespects

/-!
# Items and the whole grammar respect hereditary properties

`bears_of_readAll`: what is read of tokens has every hereditary property that they have.
-/

namespace SlotBinding.Grammar

open Syntax Parser

/-! ### What the readers give -/

instance : Bearing Invocation where
  Holds B base
    | .statement behindPath => Bearing.Holds B base behindPath
    | _ => True

section

variable {B : List Token → Prop} {base : List Token} {as : List Attribute}

instance : Bears B base Invocation.none := ⟨trivial⟩

instance : Bears B base Invocation.item := ⟨trivial⟩

instance (s : Input) [bears : Bears B base s] : Bears B base (Invocation.statement s) := ⟨bears.holds⟩

instance (v : Visibility) (name : Position × String) (type : List Token) [bears : Bears B base name] [Hereditary B] :
    Bears B base (FieldDecl.mk as v (some name.2) type) where
  holds _ own := Option.some.inj own ▸ Hereditary.word bears.holds _

instance (v : Visibility) (type : List Token) : Bears B base (FieldDecl.mk as v none type) := ⟨nofun⟩

/-- An item that is no module with a content holds only itself. -/
theorem bears_flat {i : Item} (flat : ∀ d items, i ≠ .mod d (some items)) (keeps : i.Keeps B) : Bears B base i where
  holds j holds := by
    cases holds with
    | self => exact keeps
    | content => exact absurd rfl (flat _ _)

instance (v : Visibility) (p : Position) (name : String) (generic : Bool) (fs : List FieldDecl)
    [bears : Bears B base as] [inside : Bears B base fs] :
    Bears B base (Item.struct ⟨as, v, p, name, generic, fs⟩) :=
  bears_flat (fun _ _ => nofun) ⟨bears.holds, fun _ same => Item.struct.inj same ▸ inside.holds⟩

section

variable [bears : Bears B base as]

instance (name : String) (vs : List VariantDecl) : Bears B base (Item.enum as name vs) :=
  bears_flat (fun _ _ => nofun) ⟨bears.holds, nofun⟩

instance (name : String) (fs : List FieldDecl) : Bears B base (Item.union as name fs) :=
  bears_flat (fun _ _ => nofun) ⟨bears.holds, nofun⟩

instance (target : List Token) (ms : List MemberDecl) : Bears B base (Item.impl as target ms) :=
  bears_flat (fun _ _ => nofun) ⟨bears.holds, nofun⟩

instance (name : String) (ms : List MemberDecl) : Bears B base (Item.trait as name ms) :=
  bears_flat (fun _ _ => nofun) ⟨bears.holds, nofun⟩

instance (kind : SimpleKind) (name : Option String) : Bears B base (Item.simple kind as name) :=
  bears_flat (fun _ _ => nofun) ⟨bears.holds, nofun⟩

instance (v : Visibility) (p : Position) (name : String) : Bears B base (Item.mod ⟨as, v, p, name⟩ none) :=
  bears_flat (fun _ _ => nofun) ⟨bears.holds, nofun⟩

instance (v : Visibility) (p : Position) (name : String) (items : List Item) [inside : Bears B base items] :
    Bears B base (Item.mod ⟨as, v, p, name⟩ (some items)) where
  holds j holds := by
    cases holds with
    | self => exact ⟨bears.holds, nofun⟩
    | content among holds => exact inside.holds _ among j holds

instance (i : Item) [inside : Bears B base i] : Bears B base (i.withAttributes as) := by
  obtain ⟨attributes, names⟩ := inside.holds i (.self i)
  have own : ∀ a ∈ as ++ i.attributes, B a.inside := fun a member =>
    (List.mem_append.mp member).elim (bears.holds a) (attributes a)
  cases i with
  | struct d => exact bears_flat (fun _ _ => nofun) ⟨own, fun _ same => Item.struct.inj same ▸ names d rfl⟩
  | mod d content =>
    refine ⟨fun j holds => ?_⟩
    cases holds with
    | self => exact ⟨own, nofun⟩
    | content among holds => exact inside.holds j (.content among holds)
  | shapeless => exact inside
  | enum | union | impl | trait | simple => exact bears_flat (fun _ _ => nofun) ⟨own, nofun⟩

end

instance : Bears B base Item.shapeless := bears_flat (fun _ _ => nofun) ⟨nofun, nofun⟩

end

section

set_option synthInstance.maxSize 20000

variable {B : List Token → Prop} {base : List Token} {g : Grammar} [Hereditary B] [Respecting B g]

/-! ### Statements and items -/

instance : Respects B base endsWithBrace := by
  refine respects_then _ fun s _ => ?_
  split <;> infer_instance

instance : Respects B base (letStatement g) := by
  unfold letStatement
  infer_instance

instance : Respects B base invocationAhead := by
  refine respects_then _ fun found bears => ?_
  split
  · infer_instance
  · rename_i p t
    have behind : Bears B base t := ⟨(bears.holds _ rfl).2⟩
    infer_instance

instance : Respects B base itemFollows := by
  unfold itemFollows
  repeat apply respects_choice
  infer_instance

instance : Respects B base (statement g) := by
  refine respects_then _ fun start _ => respects_then _ fun _ _ => respects_then _ fun invocation bears => ?_
  cases invocation with
  | statement t =>
    have behind : Bears B base t := ⟨bears.holds⟩
    infer_instance
  | none | item => infer_instance

instance : Respects B base (readStatements g) := by
  unfold readStatements
  infer_instance

instance : Respects B base (namedField g) := by
  unfold namedField
  infer_instance

instance : Respects B base (tupleField g) := by
  unfold tupleField
  infer_instance

instance : Respects B base (readFields g) := by
  unfold readFields
  infer_instance

instance : Respects B base (tupleFields g) := by
  unfold tupleFields
  infer_instance

instance : Respects B base (variant g) := by
  unfold variant
  infer_instance

instance (allowRoot : Bool) : Respects B base (readUseTree g allowRoot) := by
  unfold readUseTree
  infer_instance

instance : Respects B base (declHead g) := by
  unfold declHead
  infer_instance

instance : Respects B base (structBody g) := by
  unfold structBody
  infer_instance

instance : Respects B base (enumBody g) := by
  unfold enumBody
  infer_instance

instance : Respects B base (unionBody g) := by
  unfold unionBody
  infer_instance

instance : Respects B base (structItem g) := by
  unfold structItem
  infer_instance

instance : Respects B base (enumItem g) := by
  unfold enumItem
  infer_instance

instance : Respects B base (unionItem g) := by
  unfold unionItem
  infer_instance

instance : Respects B base receiverWords := by
  unfold receiverWords
  infer_instance

instance : Respects B base (functionArgument g) := by
  refine respects_then _ fun found bears => ?_
  split
  · rename_i t
    have behind : Bears B base t := ⟨(bears.holds _ rfl).2⟩
    infer_instance
  · infer_instance

instance respects_functionArguments (n : Nat) (first received : Bool) :
    Respects B base (functionArguments g n first received) := by
  induction n generalizing first received with
  | zero => exact inferInstanceAs (Respects B base (pure ()))
  | succ n ih =>
    refine respects_choice _ _ (respects_then _ fun _ _ => respects_then _ fun isOpen _ => ?_)
    dsimp only
    split <;> refine respects_then _ fun kind _ => ?_ <;> cases kind <;> infer_instance

instance (allowSafe : Bool) : Respects B base (signature g allowSafe) := by
  unfold signature
  infer_instance

instance : Respects B base (functionItem g) := by
  unfold functionItem
  infer_instance

instance : Respects B base (constBody g) := by
  unfold constBody
  infer_instance

instance : Respects B base (constItem g) := by
  unfold constItem
  infer_instance

instance : Respects B base (staticItem g) := by
  unfold staticItem
  infer_instance

instance (stops : List Expect) : Respects B base (declaredBounds g stops) := by
  unfold declaredBounds
  infer_instance

instance (place : ConditionPlace) : Respects B base (typeBody g place) := by
  unfold typeBody
  infer_instance

instance : Respects B base (typeItem g) := by
  unfold typeItem
  infer_instance

instance (d : Delimiter) : Respects B base (closeInvocation d) := by
  unfold closeInvocation
  infer_instance

instance : Respects B base memberInvocation := by
  unfold memberInvocation
  infer_instance

instance (start : Input) (keep : Bool) (m : MemberDecl) [Bears B base start] :
    Respects B base (memberOrVerbatim start keep m) := by
  unfold memberOrVerbatim
  infer_instance

instance : Respects B base (traitMember g) := by
  refine respects_then _ fun start _ => respects_then _ fun attributes _ => ?_
  refine respects_then _ fun vis _ => respects_then _ fun isDefault _ => ?_
  refine respects_then _ fun s _ => ?_
  dsimp only
  infer_instance

instance (name : String) :
    Respects B base (traitBody g name) := by
  unfold traitBody
  infer_instance

instance : Respects B base (traitItem g) := by
  unfold traitItem
  infer_instance

instance : Respects B base (traitOrAliasItem g) := by
  unfold traitOrAliasItem
  infer_instance

instance : Respects B base (implMember g) := by
  unfold implMember
  infer_instance

instance (negative : Bool) : Respects B base (implTarget g negative) := by
  refine respects_then _ fun first _ => respects_then _ fun given _ => ?_
  split
  · refine respects_then _ fun target _ => ?_
    dsimp only
    split <;> infer_instance
  · infer_instance

instance : Respects B base (implItem g) := by
  refine respects_then _ fun vis _ => respects_then _ fun _ _ => respects_then _ fun _ _ => ?_
  refine respects_then _ fun _ _ => respects_then _ fun _ _ => respects_when _ _ fun _ => ?_
  infer_instance

instance : Respects B base importLabel := by
  unfold importLabel
  infer_instance

instance : Respects B base externCrateItem := by
  unfold externCrateItem
  infer_instance

instance : Respects B base (foreignMember g) := by
  refine respects_then _ fun start _ => respects_then _ fun _ _ => respects_then _ fun seen _ => ?_
  infer_instance

instance : Respects B base (foreignBlock g) := by
  unfold foreignBlock
  infer_instance

instance : Respects B base (useItem g) := by
  unfold useItem
  infer_instance

instance : Respects B base (modItem g) := by
  unfold modItem
  infer_instance

instance : Respects B base invocationItem := by
  unfold invocationItem
  infer_instance

instance : Respects B base macroItem := by
  unfold macroItem
  infer_instance

instance (ts : List Token) : Respects B base (externItem g ts) := by
  unfold externItem
  infer_instance

instance (ts : List Token) : Respects B base (unsafeItem g ts) := by
  unfold unsafeItem
  infer_instance

instance : Respects B base (itemBody g) := by
  unfold itemBody
  infer_instance

instance : Respects B base (readItem g) := by
  refine respects_then _ fun start _ => respects_then _ fun attributes _ => respects_then _ fun item _ => ?_
  split <;> infer_instance

end

/-! ### The whole grammar -/

variable {B : List Token → Prop} [Hereditary B]

instance : Respecting B .closed where
  type base _ := inferInstanceAs (Respects B base (throw _))
  bound base _ _ := inferInstanceAs (Respects B base (throw _))
  expr base _ := inferInstanceAs (Respects B base (throw _))
  operand base _ := inferInstanceAs (Respects B base (throw _))
  operators base _ _ _ := inferInstanceAs (Respects B base (throw _))
  statementExpr base _ := inferInstanceAs (Respects B base (throw _))
  pattern base := inferInstanceAs (Respects B base (throw _))
  statements base := inferInstanceAs (Respects B base (throw _))
  item base := inferInstanceAs (Respects B base (throw _))
  fields base := inferInstanceAs (Respects B base (throw _))
  useTree base _ := inferInstanceAs (Respects B base (throw _))

instance respecting_ofDepth (n : Nat) : Respecting B (.ofDepth n) := by
  induction n with
  | zero => exact inferInstanceAs (Respecting B .closed)
  | succ n ih =>
    exact
      { type base plus := inferInstanceAs (Respects B base (readType (.ofDepth n) plus))
        bound base capture const := inferInstanceAs (Respects B base (readBound (.ofDepth n) capture const))
        expr base allow := inferInstanceAs (Respects B base (readExpr (.ofDepth n) allow))
        operand base allow := inferInstanceAs (Respects B base (readOperand (.ofDepth n) allow))
        operators base e allow least := inferInstanceAs (Respects B base (readOperators (.ofDepth n) e allow least))
        statementExpr base statement := inferInstanceAs (Respects B base (readStatementExpr (.ofDepth n) statement))
        pattern base := inferInstanceAs (Respects B base (readPattern (.ofDepth n)))
        statements base := inferInstanceAs (Respects B base (readStatements (.ofDepth n)))
        item base := inferInstanceAs (Respects B base (readItem (.ofDepth n)))
        fields base := inferInstanceAs (Respects B base (readFields (.ofDepth n)))
        useTree base allowRoot := inferInstanceAs (Respects B base (readUseTree (.ofDepth n) allowRoot)) }

/-- What is read of all of some tokens has the property if they have it. -/
theorem bears_of_readAll {α : Type} [Bearing α] {p : Grammar → Parser α} {ts written : List Token} {a : α}
    (respects : ∀ g [Respecting B g], Respects B ts (p g)) (whole : B ts) (read : readAll p ts = .ok (a, written)) :
    Bearing.Holds B ts a := by
  obtain ⟨s, ran, -, -⟩ := of_runAll_ok read
  have reader : Respects B ts (p (.forTokens ts)) := respects (.ofDepth _)
  exact (reader.run ⟨⟨[], rfl, Hereditary.nil⟩, whole, Hereditary.nil⟩ ran).2

instance : Bearing SourceFile :=
  ⟨fun B base f => Bearing.Holds B base f.attributes ∧ Bearing.Holds B base f.items⟩

instance (base : List Token) (g : Grammar) [Respecting B g] : Respects B base (readFile g) := by
  refine respects_then _ fun attributes before => respects_then _ fun items inside => ?_
  have whole : Bears B base (SourceFile.mk attributes items) := ⟨before.holds, inside.holds⟩
  infer_instance

end SlotBinding.Grammar
