import SlotBinding.Grammar.SourceFile
import SlotBinding.Proofs.BlindGrammar

/-!
# Statements, items and the whole grammar do not see places

What a slot mark says does not depend on the places of its tokens.
-/

namespace SlotBinding

namespace Grammar

open Syntax Parser

/-! ### What the readers give -/

instance : Placed Invocation where
  unplaced
    | .statement behindPath => .statement (unplaced behindPath)
    | other => other

@[simp] theorem Invocation.unplaced_none : unplaced Invocation.none = .none := rfl

@[simp] theorem Invocation.unplaced_item : unplaced Invocation.item = .item := rfl

@[simp] theorem Invocation.unplaced_statement (s : Input) :
    unplaced (Invocation.statement s) = .statement (unplaced s) :=
  rfl

instance : Unplaces Invocation.none .none := ⟨rfl⟩

instance : Unplaces Invocation.item .item := ⟨rfl⟩

instance (s t : Input) [bare : Unplaces s t] : Unplaces (Invocation.statement s) (.statement t) :=
  ⟨congrArg Invocation.statement bare.eq⟩

section

variable {p q : Position} {v : Visibility} {name name' : String} {as bs : List Attribute}
  {ts us : List Token} {h k : DeclHead}

instance (field : Option String) [before : Unplaces as bs] [inside : Unplaces ts us] :
    Unplaces (FieldDecl.mk as v field ts) (FieldDecl.mk bs v field us) where
  eq := by
    rw [← before.eq, ← inside.eq]
    rfl

instance (fs gs : List FieldDecl) [before : Unplaces as bs] [same : Unplaces name name']
    [inside : Unplaces fs gs] : Unplaces (VariantDecl.mk as name fs) (VariantDecl.mk bs name' gs) where
  eq := by
    rw [← before.eq, ← same.eq, ← inside.eq]
    rfl

instance (ps qs : List ParameterDecl) [start : Unplaces p q] [same : Unplaces name name']
    [inside : Unplaces ps qs] : Unplaces (DeclHead.mk p name ps) (DeclHead.mk q name' qs) where
  eq := by
    rw [← start.eq, ← same.eq, ← inside.eq]
    rfl

instance [bare : Unplaces h k] : Unplaces h.start k.start := ⟨congrArg DeclHead.start bare.eq⟩

instance [bare : Unplaces h k] : Unplaces h.name k.name where
  eq := by
    rw [← bare.eq]
    rfl

instance [bare : Unplaces h k] : Unplaces h.parameters k.parameters :=
  ⟨congrArg DeclHead.parameters bare.eq⟩

instance (kind : MemberKind) [before : Unplaces as bs] [same : Unplaces name name'] :
    Unplaces (MemberDecl.mk kind as name) (MemberDecl.mk kind bs name') where
  eq := by
    rw [← before.eq, ← same.eq]
    rfl

instance (generic generic' : Bool) (fs gs : List FieldDecl) [before : Unplaces as bs]
    [start : Unplaces p q] [same : Unplaces name name'] [parameters : Unplaces generic generic']
    [inside : Unplaces fs gs] :
    Unplaces (StructDecl.mk as v p name generic fs) (StructDecl.mk bs v q name' generic' gs) where
  eq := by
    rw [← before.eq, ← start.eq, ← same.eq, ← parameters.eq, ← inside.eq]
    rfl

instance [before : Unplaces as bs] [start : Unplaces p q] [same : Unplaces name name'] :
    Unplaces (ModuleDecl.mk as v p name) (ModuleDecl.mk bs v q name') where
  eq := by
    rw [← before.eq, ← start.eq, ← same.eq]
    rfl

instance (generic generic' valued : Bool) [same : Unplaces name name']
    [parameters : Unplaces generic generic'] :
    Unplaces (ConstBody.mk name generic valued) (ConstBody.mk name' generic' valued) where
  eq := by
    rw [← same.eq, ← parameters.eq]
    rfl

end

section

variable {name name' : String} {as bs : List Attribute}

instance (d e : StructDecl) [bare : Unplaces d e] : Unplaces (Item.struct d) (.struct e) :=
  ⟨congrArg Item.struct bare.eq⟩

instance (vs ws : List VariantDecl) [before : Unplaces as bs] [same : Unplaces name name']
    [inside : Unplaces vs ws] : Unplaces (Item.enum as name vs) (.enum bs name' ws) where
  eq := by
    rw [← before.eq, ← same.eq, ← inside.eq]
    rfl

instance (fs gs : List FieldDecl) [before : Unplaces as bs] [same : Unplaces name name']
    [inside : Unplaces fs gs] : Unplaces (Item.union as name fs) (.union bs name' gs) where
  eq := by
    rw [← before.eq, ← same.eq, ← inside.eq]
    rfl

instance (ts us : List Token) (ms ns : List MemberDecl) [before : Unplaces as bs]
    [target : Unplaces ts us] [inside : Unplaces ms ns] :
    Unplaces (Item.impl as ts ms) (.impl bs us ns) where
  eq := by
    rw [← before.eq, ← target.eq, ← inside.eq]
    rfl

instance (ms ns : List MemberDecl) [before : Unplaces as bs] [same : Unplaces name name']
    [inside : Unplaces ms ns] : Unplaces (Item.trait as name ms) (.trait bs name' ns) where
  eq := by
    rw [← before.eq, ← same.eq, ← inside.eq]
    rfl

instance (d e : ModuleDecl) (content content' : Option (List Item)) [bare : Unplaces d e]
    [inside : Unplaces content content'] : Unplaces (Item.mod d content) (.mod e content') where
  eq := by rw [Item.unplaced_mod, bare.eq, inside.eq]

instance (kind : SimpleKind) (n n' : Option String) [before : Unplaces as bs] [same : Unplaces n n'] :
    Unplaces (Item.simple kind as n) (.simple kind bs n') where
  eq := by
    obtain rfl := same.same
    rw [← before.eq]
    rfl

instance : Unplaces Item.shapeless .shapeless := ⟨rfl⟩

theorem withAttributes_unplaced (before : List Attribute) (i : Item) :
    (unplaced i).withAttributes (unplaced before) = unplaced (i.withAttributes before) := by
  cases i with
  | struct d =>
    show Item.struct { unplaced d with attributes := unplaced before ++ unplaced d.attributes } = _
    rw [← unplaced_append]
    rfl
  | mod d content =>
    rw [Item.unplaced_mod, Item.withAttributes, Item.withAttributes, Item.unplaced_mod]
    show Item.mod { unplaced d with attributes := unplaced before ++ unplaced d.attributes } _ = _
    rw [← unplaced_append]
    rfl
  | enum as => exact congrArg (Item.enum · _ _) (unplaced_append before as).symm
  | union as => exact congrArg (Item.union · _ _) (unplaced_append before as).symm
  | impl as => exact congrArg (Item.impl · _ _) (unplaced_append before as).symm
  | trait as => exact congrArg (Item.trait · _ _) (unplaced_append before as).symm
  | simple _ as => exact congrArg (Item.simple _ · _) (unplaced_append before as).symm
  | shapeless => rfl

instance (i j : Item) [before : Unplaces as bs] [bare : Unplaces i j] :
    Unplaces (i.withAttributes as) (j.withAttributes bs) where
  eq := by rw [← before.eq, ← bare.eq, withAttributes_unplaced]

end

section

set_option synthInstance.maxSize 20000

variable {g : Grammar} [Overlooking g]

/-! ### Statements and items -/

instance : Blind endsWithBrace := by
  refine blind_then _ _ fun s => ?_
  rw [written_unplaced]
  cases s.written with
  | nil => exact inferInstanceAs (Blind (pure false))
  | cons t before =>
    cases t with
    | word | punct | literal => exact inferInstanceAs (Blind (pure false))
    | group p d inner => cases d <;> exact inferInstanceAs (Blind (pure _))

instance : Blind (letStatement g) := by
  unfold letStatement
  infer_instance

instance : Blind invocationAhead := by
  refine blind_then _ _ fun found => ?_
  cases found with
  | none => exact inferInstanceAs (Blind (pure Invocation.none))
  | some r =>
    rw [unplaced_some]
    infer_instance

instance : Blind itemFollows := by
  unfold itemFollows
  repeat apply blind_choice
  infer_instance

instance : Blind (statement g) := by
  refine blind_then _ _ fun start => blind_then_same _ _ fun _ => blind_then _ _ fun invocation => ?_
  cases invocation <;>
    simp only [Invocation.unplaced_none, Invocation.unplaced_item, Invocation.unplaced_statement] <;>
    infer_instance

instance : Blind (readStatements g) := by
  unfold readStatements
  infer_instance

instance : Blind (namedField g) := by
  unfold namedField
  infer_instance

instance : Blind (tupleField g) := by
  unfold tupleField
  infer_instance

instance : Blind (readFields g) := by
  unfold readFields
  infer_instance

instance : Blind (tupleFields g) := by
  unfold tupleFields
  infer_instance

instance : Blind (variant g) := by
  unfold variant
  infer_instance

instance (allowRoot : Bool) : Blind (readUseTree g allowRoot) := by
  unfold readUseTree
  infer_instance

instance : Blind (declHead g) := by
  unfold declHead
  infer_instance

instance : Blind (structBody g) := by
  unfold structBody
  infer_instance

instance : Blind (enumBody g) := by
  unfold enumBody
  infer_instance

instance : Blind (unionBody g) := by
  unfold unionBody
  infer_instance

instance : Blind (structItem g) := by
  unfold structItem
  infer_instance

instance : Blind (enumItem g) := by
  unfold enumItem
  infer_instance

instance : Blind (unionItem g) := by
  unfold unionItem
  infer_instance

instance : Blind receiverWords := by
  unfold receiverWords
  infer_instance

instance : Blind (functionArgument g) := by
  refine blind_then _ _ fun found => ?_
  cases found with
  | none =>
    rw [unplaced_none]
    infer_instance
  | some r =>
    rw [unplaced_some]
    infer_instance

instance blind_functionArguments (n m : Nat) (first received : Bool) [bare : Unplaces n m] :
    ReadsBare (functionArguments g n first received) (functionArguments g m first received) := by
  obtain rfl := bare.same
  clear bare
  induction n generalizing first received with
  | zero => exact inferInstanceAs (Blind (pure ()))
  | succ n ih =>
    refine blind_choice _ _ _ _ (blind_then_same _ _ fun _ => blind_then_same _ _ fun isOpen => ?_)
    dsimp only
    split <;> refine blind_then_same _ _ fun kind => ?_ <;> cases kind <;> infer_instance

instance (w : String) (ts us : List Token) [bare : Unplaces ts us] :
    Unplaces (behindWord w ts) (behindWord w us) where
  eq := by
    rw [← bare.eq]
    cases ts with
    | nil => rfl
    | cons t rest =>
      cases t with
      | word p v =>
        simp only [unplaced_cons, Token.unplaced_word, behindWord]
        split <;> rfl
      | punct | literal | group => simp [behindWord]

instance (ts us : List Token) [Unplaces ts us] :
    Unplaces (behindConvention ts) (behindConvention us) := by
  unfold behindConvention
  infer_instance

instance (allowSafe : Bool) (ts us : List Token) [Unplaces ts us] :
    Unplaces (signatureFollows allowSafe ts) (signatureFollows allowSafe us) := by
  unfold signatureFollows
  infer_instance

instance (ts us : List Token) [Unplaces ts us] :
    Unplaces (safeSignatureFollows ts) (safeSignatureFollows us) := by
  unfold safeSignatureFollows
  infer_instance

instance (allowSafe : Bool) : Blind (signature g allowSafe) := by
  unfold signature
  infer_instance

instance : Blind (functionItem g) := by
  unfold functionItem
  infer_instance

instance : Blind (constBody g) := by
  unfold constBody
  infer_instance

instance : Blind (constItem g) := by
  unfold constItem
  infer_instance

instance : Blind (staticItem g) := by
  unfold staticItem
  infer_instance

instance (stops : List Expect) : Blind (declaredBounds g stops) := by
  unfold declaredBounds
  infer_instance

instance (place : ConditionPlace) : Blind (typeBody g place) := by
  unfold typeBody
  infer_instance

instance : Blind (typeItem g) := by
  unfold typeItem
  infer_instance

instance (d : Delimiter) : Blind (closeInvocation d) := by
  unfold closeInvocation
  infer_instance

instance : Blind memberInvocation := by
  unfold memberInvocation
  infer_instance

instance (start start' : Input) (keep keep' : Bool) (m m' : MemberDecl) [Unplaces start start']
    [same : Unplaces keep keep'] [Unplaces m m'] :
    ReadsBare (memberOrVerbatim start keep m) (memberOrVerbatim start' keep' m') := by
  unfold memberOrVerbatim
  infer_instance

instance : Blind (traitMember g) := by
  refine blind_then _ _ fun start => blind_then _ _ fun attributes => ?_
  refine blind_then_same _ _ fun vis => blind_then_same _ _ fun isDefault => ?_
  refine blind_then _ _ fun s => ?_
  dsimp only
  rw [rest_unplaced]
  infer_instance

instance (name name' : String) [Unplaces name name'] :
    ReadsBare (traitBody g name) (traitBody g name') := by
  unfold traitBody
  infer_instance

instance : Blind (traitItem g) := by
  unfold traitItem
  infer_instance

instance : Blind (traitOrAliasItem g) := by
  unfold traitOrAliasItem
  infer_instance

instance : Blind (implMember g) := by
  unfold implMember
  infer_instance

instance (negative : Bool) : Blind (implTarget g negative) := by
  refine blind_then _ _ fun ⟨shape, first⟩ => ?_
  rw [unplaced_pair, unplaced_eq shape]
  refine blind_then_same _ _ fun given => ?_
  split
  · refine blind_then _ _ fun ⟨_, target⟩ => ?_
    rw [unplaced_pair]
    dsimp only
    split <;> infer_instance
  · infer_instance

instance : Blind (implItem g) := by
  unfold implItem
  refine blind_then_same _ _ fun vis => blind_then_same _ _ fun _ => blind_then_same _ _ fun _ => ?_
  refine blind_then_same _ _ fun _ => blind_then_same _ _ fun _ => ?_
  dsimp only
  split
  · refine blind_then_same _ _ fun _ => blind_then_same _ _ fun _ => ?_
    refine blind_then_same _ _ fun _ => blind_then_same _ _ fun _ => ?_
    split
    · refine blind_then_same _ _ fun _ => blind_then_same _ _ fun _ => blind_then_same _ _ fun _ => ?_
      split
      · refine blind_then_same _ _ fun _ => ?_
        refine blind_then _ _ fun ⟨target, shaped⟩ => ?_
        refine blind_then_same _ _ fun _ => ?_
        refine blind_then _ _ fun ⟨as, members⟩ => ?_
        rw [unplaced_pair, unplaced_pair, unplaced_eq shaped]
        dsimp only
        infer_instance
      · infer_instance
    · infer_instance
  · infer_instance

instance : Blind importLabel := by
  unfold importLabel
  infer_instance

instance : Blind externCrateItem := by
  unfold externCrateItem
  infer_instance

instance : Blind (foreignMember g) := by
  refine blind_then _ _ fun start => blind_then_same _ _ fun _ => ?_
  refine blind_then _ _ fun ⟨vis, ahead⟩ => ?_
  rw [unplaced_pair, unplaced_eq vis]
  infer_instance

instance : Blind (foreignBlock g) := by
  unfold foreignBlock
  infer_instance

instance : Blind (useItem g) := by
  unfold useItem
  infer_instance

instance : Blind (modItem g) := by
  unfold modItem
  infer_instance

instance : Blind invocationItem := by
  unfold invocationItem
  infer_instance

instance : Blind macroItem := by
  unfold macroItem
  infer_instance

instance (ts us : List Token) [Unplaces ts us] : ReadsBare (externItem g ts) (externItem g us) := by
  unfold externItem
  infer_instance

instance (ts us : List Token) [Unplaces ts us] : ReadsBare (unsafeItem g ts) (unsafeItem g us) := by
  unfold unsafeItem
  infer_instance

instance : Blind (itemBody g) := by
  unfold itemBody
  infer_instance

theorem eq_shapeless_of_unplaced {i : Item} (bare : unplaced i = .shapeless) : i = .shapeless := by
  cases i with
  | mod d content =>
    rw [Item.unplaced_mod] at bare
    cases bare
  | struct | enum | union | impl | trait | simple => cases bare
  | shapeless => rfl

instance : Blind (readItem g) := by
  refine blind_then _ _ fun start => blind_then _ _ fun attributes => blind_then _ _ fun item => ?_
  split
  · show ReadsBare _ (do verbatimSince (unplaced start); return Item.shapeless)
    infer_instance
  · rename_i shaped
    split
    · rename_i bare
      exact absurd (eq_shapeless_of_unplaced bare) shaped
    · infer_instance

end

/-! ### The whole grammar -/

instance : Overlooking .closed where
  type _ := inferInstanceAs (Blind (throw _))
  bound _ _ := inferInstanceAs (Blind (throw _))
  expr _ := inferInstanceAs (Blind (throw _))
  operand _ := inferInstanceAs (Blind (throw _))
  operators _ _ _ := inferInstanceAs (Blind (throw _))
  statementExpr _ := inferInstanceAs (Blind (throw _))
  pattern := inferInstanceAs (Blind (throw _))
  statements := inferInstanceAs (Blind (throw _))
  item := inferInstanceAs (Blind (throw _))
  fields := inferInstanceAs (Blind (throw _))
  useTree _ := inferInstanceAs (Blind (throw _))

instance overlooking_ofDepth (n : Nat) : Overlooking (.ofDepth n) := by
  induction n with
  | zero => exact inferInstanceAs (Overlooking .closed)
  | succ n ih =>
    exact
      { type plus := inferInstanceAs (Blind (readType (.ofDepth n) plus))
        bound capture const := inferInstanceAs (Blind (readBound (.ofDepth n) capture const))
        expr allow := inferInstanceAs (Blind (readExpr (.ofDepth n) allow))
        operand allow := inferInstanceAs (Blind (readOperand (.ofDepth n) allow))
        operators e allow least := inferInstanceAs (Blind (readOperators (.ofDepth n) e allow least))
        statementExpr statement := inferInstanceAs (Blind (readStatementExpr (.ofDepth n) statement))
        pattern := inferInstanceAs (Blind (readPattern (.ofDepth n)))
        statements := inferInstanceAs (Blind (readStatements (.ofDepth n)))
        item := inferInstanceAs (Blind (readItem (.ofDepth n)))
        fields := inferInstanceAs (Blind (readFields (.ofDepth n)))
        useTree allowRoot := inferInstanceAs (Blind (readUseTree (.ofDepth n) allowRoot)) }

theorem readAll_unplaced {α : Type} [Placed α] {p : Grammar → Parser α}
    (blind : ∀ g [Overlooking g], Blind (p g)) (ts : List Token) :
    readAll p (unplaced ts) = (readAll p ts).map unplaced := by
  unfold readAll Grammar.forTokens
  rw [Token.sizeAll_unplaced]
  have whole := blind (.ofDepth (8 * Token.size.sizeAll ts + 16))
  exact runAll_unplaced _ _ ts

instance (g : Grammar) [Overlooking g] : Blind (readFile g) := by
  refine blind_then _ _ fun attributes => blind_then _ _ fun items => ?_
  have whole : Unplaces (SourceFile.mk attributes items)
      (SourceFile.mk (unplaced attributes) (unplaced items)) :=
    ⟨rfl⟩
  infer_instance

/-- Two texts with the same tokens declare the same, however they are laid out. -/
theorem sourceFile_alike {one other : String}
    (same : unplaced (fileTokens? one) = unplaced (fileTokens? other)) :
    (sourceFile one).map unplaced = (sourceFile other).map unplaced := by
  have bare (text : String) : (sourceFile text).map unplaced =
      (unplaced (fileTokens? text)).elim (.error .unreadable) fun ts =>
        (readAll readFile ts).map (·.1) := by
    unfold sourceFile
    cases fileTokens? text with
    | none => rfl
    | some ts =>
      rw [unplaced_some, Option.elim_some, readAll_unplaced fun _ _ => inferInstance]
      dsimp only
      cases readAll readFile ts <;> rfl
  rw [bare, bare, same]

/-- If one of two texts with the same tokens is a source file, the other one is the same source file. -/
theorem exists_sourceFile_alike {one other : String} {g : SourceFile}
    (same : unplaced (fileTokens? one) = unplaced (fileTokens? other))
    (parsed : sourceFile other = .ok g) :
    ∃ f, sourceFile one = .ok f ∧ unplaced f = unplaced g := by
  have parses := sourceFile_alike same
  rw [parsed] at parses
  cases found : sourceFile one with
  | error e =>
    rw [found] at parses
    cases parses
  | ok f =>
    rw [found] at parses
    exact ⟨f, rfl, Except.ok.inj parses⟩

end Grammar

/-! ### Slot marks -/

namespace Slot

open Syntax Parser Grammar

instance : Placed ItemValue where
  unplaced
    | .list inner => .list (unplaced inner)
    | other => other

instance : Placed NestedItem where
  unplaced
    | .named name value => .named name (unplaced value)
    | .literal => .literal

instance : Unplaces NestedItem.literal .literal := ⟨rfl⟩

instance (name : String) (v w : ItemValue) [bare : Unplaces v w] :
    Unplaces (NestedItem.named name v) (.named name w) :=
  ⟨congrArg (NestedItem.named name) bare.eq⟩

instance (ts us : List Token) [bare : Unplaces ts us] : Unplaces (ItemValue.list ts) (.list us) :=
  ⟨congrArg ItemValue.list bare.eq⟩

instance (shape : ExprShape) : Unplaces (ItemValue.value shape) (.value shape) := ⟨rfl⟩

instance : Unplaces ItemValue.word .word := ⟨rfl⟩

section

set_option synthInstance.maxSize 20000

variable {g : Grammar} [Overlooking g]

instance blind_nameSegments (n m : Nat) [bare : Unplaces n m] :
    ReadsBare (nameSegments n) (nameSegments m) := by
  obtain rfl := bare.same
  clear bare
  induction n with
  | zero => exact inferInstanceAs (Blind (pure []))
  | succ n ih =>
    unfold nameSegments
    infer_instance

instance : Blind (itemValue g) := by
  refine blind_then _ _ fun s => ?_
  rw [rest_unplaced, frontLiteral_unplaced]
  rcases frontLiteral s.rest with _ | ⟨l, _ | ⟨t, rest⟩⟩
  · rw [unplaced_none]
    infer_instance
  · rw [unplaced_some, unplaced_pair, unplaced_nil]
    infer_instance
  · rw [unplaced_some, unplaced_pair, unplaced_cons]
    infer_instance

instance : Blind literalFollows := by
  unfold literalFollows
  infer_instance

instance : Blind (nestedItem g) := by
  unfold nestedItem
  infer_instance

end

theorem nestedItems_unplaced (ts : List Token) :
    nestedItems (unplaced ts) = (nestedItems ts).map unplaced := by
  unfold nestedItems
  rw [readAll_unplaced fun _ _ => inferInstance]
  cases readAll (fun g => commaTerminated (nestedItem g)) ts <;> rfl

theorem ofItemValue_unplaced (v : ItemValue) : ofItemValue (unplaced v) = ofItemValue v := by
  cases v with
  | word | value => rfl
  | list inner =>
    show ofItemValue (.list (unplaced inner)) = _
    simp only [ofItemValue, nestedItems_unplaced]
    cases nestedItems inner <;> rfl

theorem add_unplaced (f : Findings) (i : NestedItem) : f.add (unplaced i) = f.add i := by
  cases i with
  | literal => rfl
  | named name v =>
    show f.add (.named name (unplaced v)) = _
    simp only [Findings.add, ofItemValue_unplaced]

theorem ofNamedForm_unplaced (ts : List Token) : ofNamedForm (unplaced ts) = ofNamedForm ts := by
  have items (is : List NestedItem) : ofItems (unplaced is) = ofItems is := by
    unfold ofItems
    show ((is.map unplaced).foldl Findings.add {}).close = _
    simp only [List.foldl_map, add_unplaced]
  unfold ofNamedForm
  rw [nestedItems_unplaced]
  cases nestedItems ts with
  | error e => rfl
  | ok is => exact items is

end Slot

namespace SlotArgument

open Syntax Grammar

theorem ofTokens_unplaced (ts : List Token) : ofTokens (unplaced ts) = ofTokens ts := by
  unfold ofTokens ofNamedForm
  rw [readAll_unplaced fun _ _ => inferInstance, Slot.ofNamedForm_unplaced]
  cases readAll (fun g => g.expr true) ts <;> rfl

theorem ofAttribute_unplaced (a : Attribute) : ofAttribute (unplaced a) = ofAttribute a := by
  obtain ⟨_, _, argument, _⟩ := a
  cases argument with
  | none | value => rfl
  | list d inner => exact ofTokens_unplaced inner

end SlotArgument

end SlotBinding
