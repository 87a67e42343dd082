import SlotBinding.Proofs.Respects
import SlotBinding.Slot.Argument

/-!
# The grammar respects hereditary properties

Every reader of the grammar respects a hereditary property if those that it may call do, and so do all readers of the
grammar for a bounded nesting. What a declaration keeps of its tokens therefore has the property as well.
-/

namespace SlotBinding

open Syntax (FieldDecl Item ModuleDecl)

/-- The item itself, or one in the modules that it declares. -/
inductive Syntax.Item.Holds : Item → Item → Prop
  | self (i : Item) : i.Holds i
  | content {d : ModuleDecl} {items : List Item} {i j : Item} (among : i ∈ items) (holds : i.Holds j) :
      Holds (.mod d (some items)) j

/-- The attributes of the item have the property, and the names of its fields, if it is a struct. -/
structure Syntax.Item.Keeps (B : List Token → Prop) (i : Item) : Prop where
  attributes : ∀ a ∈ i.attributes, B a.inside
  names : ∀ d, i = .struct d → ∀ f ∈ d.fields, ∀ w ∈ f.name, B [.ofWord w]

namespace Grammar

open Syntax Parser

/-! ### What the readers give -/

instance : Bearing Attribute := ⟨fun B _ a => B a.inside⟩

instance : Bearing Listed := ⟨fun B _ p => B p.tokens⟩

instance : Bearing ParameterDecl :=
  ⟨fun B _ p => B p.attributes ∧ B p.lead ∧ B p.name ∧ B p.bounds ∧ B p.default⟩

instance : Bearing FieldDecl := ⟨fun B _ f => ∀ w ∈ f.name, B [.ofWord w]⟩

/-- An item keeps what all items in it keep. -/
instance : Bearing Item := ⟨fun B _ i => ∀ j, i.Holds j → j.Keeps B⟩

instance : Unbased FieldDecl := ⟨id⟩

instance : Unbased Attribute := ⟨id⟩

instance : Unbased Item := ⟨id⟩

section

variable {B : List Token → Prop} {base ts : List Token}

instance (start : Position) (path : ModPath) (argument : AttributeArgument) [inside : Bears B base ts] :
    Bears B base (Attribute.mk start path argument ts) :=
  ⟨inside.holds⟩

instance (lifetime comma : Bool) [tokens : Bears B base ts] : Bears B base (Listed.mk lifetime ts comma) :=
  ⟨tokens.holds⟩

instance (lifetime comma : Bool) (lead name bounds default : List Token) [before : Bears B base ts]
    [first : Bears B base lead] [named : Bears B base name] [bounded : Bears B base bounds]
    [given : Bears B base default] : Bears B base (ParameterDecl.mk lifetime ts lead name bounds default comma) :=
  ⟨before.holds, first.holds, named.holds, bounded.holds, given.holds⟩

instance (p : ParameterDecl) [bears : Bears B base p] : Bears B base ({ p with comma := true } : ParameterDecl) :=
  ⟨bears.holds⟩

variable [Hereditary B]

theorem bears_join {parts : List Listed} (bears : ∀ p ∈ parts, B p.tokens) (separated : Bool) :
    B (Listed.join separated parts) := by
  have comma : B Listed.commaTokens := Hereditary.mark (by simp) _
  induction parts generalizing separated with
  | nil => exact Hereditary.nil
  | cons p rest ih =>
    obtain ⟨own, others⟩ := List.forall_mem_cons.mp bears
    refine Hereditary.append (Hereditary.append (Hereditary.append ?_ own) ?_) (ih others _) <;> split
    all_goals first | exact comma | exact Hereditary.nil

instance (parts : List Listed) [bears : Bears B base parts] : Bears B base (Listed.arrange parts) where
  holds := by
    refine bears_join (fun p member => bears.holds p ?_) true
    rcases List.mem_append.mp member with found | found <;> exact (List.mem_filter.mp found).1

instance (parts : List Listed) [Bears B base parts] : Bears B base (angled parts) := by
  unfold angled
  infer_instance

theorem ParameterDecl.bears_complete {p : ParameterDecl} (bears : Bearing.Holds B base p) : B p.complete.tokens := by
  obtain ⟨before, first, named, bounded, given⟩ := bears
  exact Hereditary.append (Hereditary.append (Hereditary.append (Hereditary.append before first) named) bounded) given

instance (ps : List ParameterDecl) [bears : Bears B base ps] : Bears B base (ps.map ParameterDecl.complete) where
  holds := List.forall_mem_map.mpr fun p member => ParameterDecl.bears_complete (bears.holds p member)

theorem bears_flatMap {α : Type} {as : List α} {f : α → List Token} (bears : ∀ a ∈ as, B (f a)) :
    B (as.flatMap f) := by
  induction as with
  | nil => exact Hereditary.nil
  | cons a rest ih =>
    obtain ⟨own, others⟩ := List.forall_mem_cons.mp bears
    exact Hereditary.append own (ih others)

/-- What was written before a token stays when the token goes. -/
theorem bears_before {t : Token} {l before : List Token} (own : B (l ++ t :: before).reverse)
    (other : ¬t.StartsWord) : B before.reverse := by
  rw [List.reverse_append, List.reverse_cons, List.append_assoc] at own
  exact Hereditary.front own other

theorem bears_dropEmptyArguments (own : B ts.reverse) : B (dropEmptyArguments ts).reverse := by
  unfold dropEmptyArguments
  split
  · exact bears_before (l := [_, _, _]) own (Token.not_startsWord_punct (by decide))
  · exact bears_before (l := [_]) own (Token.not_startsWord_punct (by decide))
  · exact own

theorem bears_mergeParens (own : B ts.reverse) : B (mergeParens ts).reverse := by
  unfold mergeParens
  split
  · rename_i p q inner before
    rw [List.reverse_cons] at own ⊢
    have inside : B inner := Hereditary.inside (Hereditary.inside (Hereditary.behind own))
    exact Hereditary.append (Hereditary.front own (Token.not_startsWord_group _ _ _)) (Hereditary.group inside _ _)
  · exact own

instance : Respects B base (modify fun s => { s with written := dropEmptyArguments s.written }) :=
  respects_modify fun _ sound => ⟨sound.read, sound.rest, bears_dropEmptyArguments sound.written⟩

instance : Respects B base (modify fun s => { s with written := mergeParens s.written }) :=
  respects_modify fun _ sound => ⟨sound.read, sound.rest, bears_mergeParens sound.written⟩

end

/-! ### The grammar -/

/-- All readers that may be called respect the property. -/
class Respecting (B : List Token → Prop) (g : Grammar) : Prop where
  type : ∀ base plus, Respects B base (g.type plus)
  bound : ∀ base capture const, Respects B base (g.bound capture const)
  expr : ∀ base allow, Respects B base (g.expr allow)
  operand : ∀ base allow, Respects B base (g.operand allow)
  operators : ∀ base e allow least, Respects B base (g.operators e allow least)
  statementExpr : ∀ base statement, Respects B base (g.statementExpr statement)
  pattern : ∀ base, Respects B base g.pattern
  statements : ∀ base, Respects B base g.statements
  item : ∀ base, Respects B base g.item
  fields : ∀ base, Respects B base g.fields
  useTree : ∀ base allowRoot, Respects B base (g.useTree allowRoot)

attribute [instance] Respecting.type Respecting.bound Respecting.expr Respecting.operand
  Respecting.operators Respecting.statementExpr Respecting.pattern Respecting.statements
  Respecting.item Respecting.fields Respecting.useTree

section

-- The instance for a reader is as long as the reader.
set_option synthInstance.maxSize 20000

variable {B : List Token → Prop} {base : List Token} {g : Grammar} [Hereditary B] [Respecting B g]

instance respects_modSegments (n : Nat) :
    Respects B base (modSegments n) := by
  induction n with
  | zero => exact inferInstanceAs (Respects B base (failPlain _))
  | succ n ih =>
    unfold modSegments
    infer_instance

instance : Respects B base modPath := by
  unfold modPath
  infer_instance

instance : Respects B base visibility := by
  refine respects_then _ fun marked _ => ?_
  split
  · infer_instance
  · refine respects_then _ fun s _ => ?_
    split <;> infer_instance

instance : Respects B base (attributeValue g) := by
  refine respects_then _ fun s _ => ?_
  split
  · refine respects_then _ fun found _ => ?_
    split <;> infer_instance
  · infer_instance

instance : Respects B base (attributeInside g) := by
  unfold attributeInside
  infer_instance

instance (start : Position) : Respects B base (attributeBody g start) := by
  unfold attributeBody
  infer_instance

instance : Respects B base (outerAttributes g) := by
  unfold outerAttributes
  infer_instance

instance : Respects B base (innerAttributes g) := by
  unfold innerAttributes
  infer_instance

instance (part : Parser Bool) [Respects B base part] : Respects B base (angleList part) := by
  unfold angleList
  infer_instance

instance : Respects B base (block g) := by
  unfold block
  infer_instance

instance : Respects B base (attributedBlock g) := by
  unfold attributedBlock
  infer_instance

instance : Respects B base builtinFollows := by
  unfold builtinFollows
  infer_instance

instance : Respects B base builtinForm := by
  unfold builtinForm
  infer_instance

instance : Respects B base (constArgument g) := by
  unfold constArgument
  infer_instance

instance (stop : Parser Bool) (bound : Parser BoundShape) [Respects B base stop] [Respects B base bound] :
    Respects B base (boundsUpTo stop bound) := by
  unfold boundsUpTo
  infer_instance

instance (stop : Parser Bool) (bound : Parser BoundShape) [Respects B base stop] [Respects B base bound] :
    Respects B base (boundsExactlyUpTo stop bound) := by
  unfold boundsExactlyUpTo
  infer_instance

instance : Respects B base (genericArgument g) := by
  refine respects_then _ fun lifetime _ => respects_then _ fun sum _ => ?_
  split
  · infer_instance
  · refine respects_then _ fun const _ => ?_
    split
    · infer_instance
    · refine respects_then _ fun shape _ => ?_
      cases shape with
      | path qualified plain => cases qualified <;> cases plain <;> infer_instance
      | paren | bareBounds | other => infer_instance

instance : Respects B base (angleArguments g) := by
  unfold angleArguments
  infer_instance

instance (plus : Bool) : Respects B base (returnType g plus) := by
  unfold returnType
  infer_instance

instance : Respects B base (parenArguments g) := by
  unfold parenArguments
  infer_instance

instance : Respects B base parenArgumentsFollow := by
  unfold parenArgumentsFollow
  infer_instance

instance (inExpr : Bool) : Respects B base (pathSegment g inExpr) := by
  unfold pathSegment
  infer_instance

instance (inExpr : Bool) : Respects B base (pathRest g inExpr) := by
  unfold pathRest
  infer_instance

instance (inExpr : Bool) : Respects B base (path g inExpr) := by
  unfold path
  infer_instance

instance (inExpr : Bool) : Respects B base (qualifiedPath g inExpr) := by
  refine respects_choice _ _ ?_
  infer_instance

/-! ### Parameters, bounds and conditions -/

instance (stop : Parser Bool) (bound : Parser BoundShape) [Respects B base stop] [Respects B base bound] :
    Respects B base (optionalBounds stop bound) := by
  unfold optionalBounds
  infer_instance

instance : Respects B base parameterStop := by
  unfold parameterStop
  infer_instance

instance (as : List Token) [Bears B base as] : Respects B base (lifetimeParameter as) := by
  unfold lifetimeParameter
  infer_instance

instance (as : List Token) [Bears B base as] : Respects B base (typeParameter g as) := by
  unfold typeParameter
  infer_instance

instance (as : List Token) [Bears B base as] : Respects B base (constParameter g as) := by
  unfold constParameter
  infer_instance

instance (place : ParameterPlace) : Respects B base (parameter g place) := by
  unfold parameter
  infer_instance

instance (place : ParameterPlace) : Respects B base (parameterList g place) := by
  unfold parameterList
  infer_instance

instance : Respects B base (parameters g) := by
  unfold parameters
  infer_instance

instance : Respects B base (binder g) := by
  refine respects_then _ fun _ _ => respects_then _ fun ps bears => ?_
  have inside : Bears B base (ps.flatMap fun p => p.complete.tokens ++ if p.comma then Listed.commaTokens else []) :=
    ⟨bears_flatMap fun p member => Hereditary.append (ParameterDecl.bears_complete (bears.holds p member)) <| by
      split
      · exact Hereditary.mark (by simp) _
      · exact Hereditary.nil⟩
  infer_instance

instance : Respects B base (binder? g) := by
  unfold binder?
  infer_instance

instance : Respects B base parametersFollow := by
  unfold parametersFollow
  infer_instance

instance : Respects B base (traitPath g) := by
  unfold traitPath
  infer_instance

instance (allowConst : Bool) : Respects B base (traitBound g allowConst) := by
  unfold traitBound
  refine respects_then _ fun before _ => respects_then _ fun cond _ => ?_
  infer_instance

instance : Respects B base capturedParameter := by
  unfold capturedParameter
  infer_instance

instance : Respects B base captures := by
  unfold captures
  infer_instance

instance (allowCapture allowConst : Bool) : Respects B base (readBound g allowCapture allowConst) := by
  unfold readBound
  infer_instance

instance : Respects B base boundFollows := by
  unfold boundFollows
  infer_instance

instance respects_boundSumAtMost (plus allowCapture allowConst : Bool) (n : Nat) :
    Respects B base (boundSumAtMost g plus allowCapture allowConst n) := by
  induction n with
  | zero => exact inferInstanceAs (Respects B base (pure _))
  | succ n ih =>
    unfold boundSumAtMost
    infer_instance

instance (plus allowCapture allowConst : Bool) : Respects B base (boundSum g plus allowCapture allowConst) := by
  unfold boundSum
  infer_instance

instance : Respects B base conditionsStop := by
  unfold conditionsStop
  infer_instance

instance : Respects B base (condition g) := by
  unfold condition
  infer_instance

instance : Respects B base (conditions? g) := by
  unfold conditions?
  infer_instance

/-! ### Types -/

instance : Respects B base (moreBounds g) := by
  unfold moreBounds
  infer_instance

instance (plus : Bool) : Respects B base (objectBounds g plus) := by
  unfold objectBounds
  infer_instance

instance : Respects B base (objectType g) := by
  unfold objectType
  infer_instance

instance : Respects B base (parenTypeInside g) := by
  unfold parenTypeInside
  infer_instance

instance (plus : Bool) : Respects B base (parenType g plus) := by
  refine respects_then _ fun inside _ => ?_
  split
  · infer_instance
  · infer_instance
  · infer_instance
  · refine respects_then _ fun more _ => ?_
    split
    · infer_instance
    · split <;> infer_instance

instance (first : Bool) : Respects B base (functionTypeArgument g first) := by
  unfold functionTypeArgument
  infer_instance

instance : Respects B base openArgumentsFollow := by
  unfold openArgumentsFollow
  infer_instance

instance : Respects B base openArguments := by
  unfold openArguments
  infer_instance

instance respects_functionTypeArguments (n : Nat) (first : Bool) :
    Respects B base (functionTypeArguments g n first) := by
  induction n generalizing first with
  | zero => exact inferInstanceAs (Respects B base (pure ()))
  | succ n ih =>
    unfold functionTypeArguments
    infer_instance

instance : Respects B base convention? := by
  unfold convention?
  infer_instance

instance : Respects B base (functionType g) := by
  unfold functionType
  infer_instance

instance respects_traitAndMore_more (n : Nat) :
    Respects B base (traitAndMore.more g n) := by
  induction n with
  | zero => exact inferInstanceAs (Respects B base (pure _))
  | succ n ih =>
    unfold traitAndMore.more
    infer_instance

instance (plus : Bool) : Respects B base (traitAndMore g plus) := by
  unfold traitAndMore
  infer_instance

instance (plus : Bool) (binder : List Token) [Bears B base binder] :
    Respects B base (pathType g plus binder) := by
  unfold pathType
  infer_instance

instance (plus : Bool) : Respects B base (dynType g plus) := by
  unfold dynType
  infer_instance

instance : Respects B base (bracketType g) := by
  unfold bracketType
  infer_instance

instance : Respects B base (pointerType g) := by
  unfold pointerType
  infer_instance

instance : Respects B base (referenceType g) := by
  unfold referenceType
  infer_instance

instance (plus : Bool) : Respects B base (implType g plus) := by
  unfold implType
  infer_instance

instance (plus : Bool) : Respects B base (readType g plus) := by
  refine respects_then _ fun start _ => respects_then _ fun binder _ => ?_
  refine respects_then _ fun follows _ => respects_then _ fun object _ => ?_
  refine respects_when _ _ fun _ => ?_
  repeat apply respects_choice
  infer_instance

/-! ### Patterns and operators -/

instance : Respects B base alternativeFollows := by
  unfold alternativeFollows
  infer_instance

instance : Respects B base (alternatives g) := by
  unfold alternatives
  infer_instance

instance : Respects B base rangeLimits := by
  unfold rangeLimits
  infer_instance

instance : Respects B base patternRangeLimits := by
  unfold patternRangeLimits
  infer_instance

instance : Respects B base (constBlock g) := by
  unfold constBlock
  infer_instance

instance : Respects B base (rangeEnd? g) := by
  unfold rangeEnd?
  infer_instance

instance : Respects B base (rangeTail g) := by
  unfold rangeTail
  infer_instance

instance : Respects B base (rangeWithoutStart g) := by
  unfold rangeWithoutStart
  infer_instance

instance : Respects B base (patternList g) := by
  unfold patternList
  infer_instance

instance (l : Literal) : Respects B base (memberNumber l) := by
  unfold memberNumber
  split <;> infer_instance

theorem respectsAt_behindLiteral {α : Type} [Bearing α] {s : Input} {l : LiteralValue} {rest : List Token}
    (found : frontLiteral s.rest = some (l, rest)) (next : Unit → Parser α) [∀ u, Respects B base (next u)] :
    RespectsAt B base s (moveTo rest >>= next) := by
  intro _ _ sound ran
  obtain ⟨_, _, moved, ran⟩ := of_bind_ok ran
  obtain ⟨⟨front, parts, own⟩, -⟩ := of_frontLiteral found sound.rest
  cases moved
  exact Respects.run (p := next _) (sound.step parts own Hereditary.nil) ran

instance : Respects B base member := by
  refine respects_then _ fun named _ => ?_
  split
  · infer_instance
  · refine respects_get fun s => ?_
    split
    · rename_i found
      split
      · exact respectsAt_behindLiteral found _
      · exact respectsAt s _
    · exact respectsAt s _

instance : Respects B base (fieldPattern g) := by
  unfold fieldPattern
  infer_instance

instance : Respects B base (structPattern g) := by
  unfold structPattern
  infer_instance

instance : Respects B base (pathPattern g) := by
  unfold pathPattern
  infer_instance

instance : Respects B base (namePattern g) := by
  unfold namePattern
  infer_instance

instance : Respects B base (literalPattern g) := by
  unfold literalPattern
  infer_instance

instance : Respects B base (slicePatternElement g) := by
  unfold slicePatternElement
  infer_instance

instance : Respects B base pathPatternFollows := by
  unfold pathPatternFollows
  infer_instance

instance : Respects B base (readPattern g) := by
  unfold readPattern
  repeat apply respects_choice
  infer_instance

instance : Respects B base binaryOperator? := by
  unfold binaryOperator?
  infer_instance

instance : Respects B base assignFollows := by
  unfold assignFollows
  infer_instance

instance : Respects B base nextPrecedence := by
  refine respects_then _ fun found _ => ?_
  split <;> infer_instance

instance respects_rightOperandAtMost (allow : Bool) (p : Precedence) (n : Nat) (e : ExprShape) :
    Respects B base (rightOperandAtMost g allow p n e) := by
  induction n generalizing e with
  | zero => exact inferInstanceAs (Respects B base (pure e))
  | succ n ih =>
    unfold rightOperandAtMost
    infer_instance

instance (allow : Bool) (p : Precedence) : Respects B base (rightOperand g allow p) := by
  unfold rightOperand
  infer_instance

instance : Respects B base dotFollows := by
  unfold dotFollows
  infer_instance

instance (allow : Bool) : Respects B base (rangeFrom g allow) := by
  unfold rangeFrom
  infer_instance

instance : Respects B base checkCast := by
  unfold checkCast
  infer_instance

instance respects_operatorsAtMost (allow : Bool) (least : Precedence) (n : Nat) (e : ExprShape) :
    Respects B base (operatorsAtMost g allow least n e) := by
  induction n generalizing e with
  | zero => exact inferInstanceAs (Respects B base (pure e))
  | succ n ih =>
    unfold operatorsAtMost
    split
    · infer_instance
    · refine respects_then _ fun found _ => ?_
      split <;> infer_instance

instance (e : ExprShape) (allow : Bool) (least : Precedence) :
    Respects B base (readOperators g e allow least) := by
  unfold readOperators
  infer_instance

instance : Respects B base (arguments g) := by
  unfold arguments
  infer_instance

instance (spelling : List Char) : Respects B base (memberChain spelling) := by
  unfold memberChain
  infer_instance

instance : Respects B base (afterDot g) := by
  refine respects_get fun s => ?_
  split
  · rename_i found
    exact respectsAt_behindLiteral found _
  · exact respectsAt s _

instance respects_trailersAtMost (n : Nat) (e : ExprShape) :
    Respects B base (trailersAtMost g n e) := by
  induction n generalizing e with
  | zero => exact inferInstanceAs (Respects B base (pure e))
  | succ n ih =>
    unfold trailersAtMost
    infer_instance

instance (e : ExprShape) : Respects B base (trailers g e) := by
  unfold trailers
  infer_instance

/-! ### Atoms and expressions -/

instance : Respects B base binderFollows := by
  refine respects_then _ fun binds _ => ?_
  split
  · infer_instance
  · refine respects_then _ fun s _ => ?_
    split <;> infer_instance

instance : Respects B base exprFollows := by
  unfold exprFollows
  infer_instance

instance : Respects B base (closureArgument g) := by
  unfold closureArgument
  infer_instance

instance (allow : Bool) : Respects B base (closure g allow) := by
  -- The parameters and the four words in front of the arguments.
  iterate 5 refine respects_then _ fun _ _ => ?_
  infer_instance

instance : Respects B base (fieldValue g) := by
  unfold fieldValue
  infer_instance

instance : Respects B base (structLiteral g) := by
  unfold structLiteral
  infer_instance

instance (allow : Bool) : Respects B base (pathExpr g allow) := by
  unfold pathExpr
  infer_instance

instance : Respects B base (parenExpr g) := by
  unfold parenExpr
  infer_instance

instance : Respects B base (bracketExpr g) := by
  unfold bracketExpr
  infer_instance

instance : Respects B base (labelFollowsAttributes g) := by
  refine respects_then _ fun found _ => ?_
  split <;> infer_instance

instance (allow : Bool) : Respects B base (breakExpr g allow) := by
  unfold breakExpr
  infer_instance

instance (allow : Bool) : Respects B base (letExpr g allow) := by
  unfold letExpr
  infer_instance

instance : Respects B base (ifExpr g) := by
  unfold ifExpr
  infer_instance

instance : Respects B base (whileExpr g) := by
  unfold whileExpr
  infer_instance

instance : Respects B base (forExpr g) := by
  unfold forExpr
  infer_instance

instance : Respects B base (loopExpr g) := by
  unfold loopExpr
  infer_instance

instance : Respects B base (arm g) := by
  unfold arm
  infer_instance

instance : Respects B base (matchExpr g) := by
  unfold matchExpr
  infer_instance

instance : Respects B base (labeledExpr g) := by
  unfold labeledExpr
  infer_instance

instance : Respects B base closureFollows := by
  unfold closureFollows
  infer_instance

instance : Respects B base asyncBlockFollows := by
  unfold asyncBlockFollows
  infer_instance

instance (allow : Bool) : Respects B base (keywordExpr? g allow) := by
  unfold keywordExpr?
  repeat apply respects_choice
  infer_instance

instance : Respects B base pathExprFollows := by
  unfold pathExprFollows
  infer_instance

instance (allow : Bool) : Respects B base (atom g allow) := by
  refine respects_choice _ _ (respects_choice _ _ ?_)
  refine respects_then _ fun tried _ => respects_then _ fun braced _ => ?_
  split
  · infer_instance
  · repeat apply respects_choice
    refine respects_then _ fun keyword _ => ?_
    split <;> infer_instance

instance (start : Input) (attributed allow : Bool) [Bears B base start] :
    Respects B base (atomWithTrailers g start attributed allow) := by
  unfold atomWithTrailers
  infer_instance

instance (allow : Bool) : Respects B base (referenceExpr g allow) := by
  unfold referenceExpr
  infer_instance

instance (allow : Bool) : Respects B base (readOperand g allow) := by
  unfold readOperand
  infer_instance

instance (allow : Bool) : Respects B base (readExpr g allow) := by
  unfold readExpr
  infer_instance

instance : Respects B base (blockLike? g) := by
  unfold blockLike?
  infer_instance

instance : Respects B base (blockBoundedExpr g) := by
  refine respects_then _ fun found _ => ?_
  cases found <;> infer_instance

instance (statement : Bool) : Respects B base (readStatementExpr g statement) := by
  unfold readStatementExpr
  infer_instance

end

end Grammar

end SlotBinding
