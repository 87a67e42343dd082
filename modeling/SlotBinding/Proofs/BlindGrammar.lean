import SlotBinding.Proofs.BlindReaders
import SlotBinding.Slot.Argument

/-!
# The grammar does not see places

Every reader of the grammar is blind if those that it may call are, and so are all readers of the grammar
for a bounded nesting.
-/

namespace SlotBinding

theorem Token.signs_unplaced {c d : Char} {ts : List Token}
    (none : ∀ p s q r rest, ts ≠ punct p c s :: punct q d r :: rest) (p : Position) (s : Spacing)
    (q : Position) (r : Spacing) (rest : List Token) :
    unplaced ts ≠ punct p c s :: punct q d r :: rest := by
  intro same
  rcases ts with _ | ⟨t, _ | ⟨u, more⟩⟩
  · cases same
  · simp at same
  · simp only [unplaced_cons, List.cons.injEq] at same
    obtain ⟨first, second, -⟩ := same
    cases t <;> cases first
    cases u <;> cases second
    exact none _ _ _ _ _ rfl

namespace Grammar

open Syntax Parser

/-! ### What the readers give -/

instance : Placed Listed := ⟨fun p => ⟨p.lifetime, unplaced p.tokens, p.comma⟩⟩

instance : Placed ParameterDecl where
  unplaced p :=
    { lifetime := p.lifetime, attributes := unplaced p.attributes, lead := unplaced p.lead
      name := unplaced p.name, bounds := unplaced p.bounds, default := unplaced p.default
      comma := p.comma }

instance : Placed DeclHead where
  unplaced h := ⟨unplaced h.start, h.name, unplaced h.parameters⟩

section

variable {ts us : List Token}

instance : Unplaces AttributeArgument.none .none := ⟨rfl⟩

instance (l : Option Literal) : Unplaces (AttributeArgument.value l) (.value l) := ⟨rfl⟩

instance (d : Delimiter) [bare : Unplaces ts us] : Unplaces (AttributeArgument.list d ts) (.list d us) :=
  ⟨congrArg (AttributeArgument.list d) bare.eq⟩

instance (p q : Position) (path : ModPath) (a b : AttributeArgument) [start : Unplaces p q]
    [argument : Unplaces a b] [inside : Unplaces ts us] :
    Unplaces (Attribute.mk p path a ts) (Attribute.mk q path b us) where
  eq := by
    rw [← start.eq, ← argument.eq, ← inside.eq]
    rfl

instance (lifetime comma : Bool) [bare : Unplaces ts us] :
    Unplaces (Listed.mk lifetime ts comma) (Listed.mk lifetime us comma) :=
  ⟨congrArg (Listed.mk lifetime · comma) bare.eq⟩

instance (lifetime comma : Bool) (lead lead' name name' bounds bounds' default default' : List Token)
    [before : Unplaces ts us] [first : Unplaces lead lead'] [named : Unplaces name name']
    [bounded : Unplaces bounds bounds'] [given : Unplaces default default'] :
    Unplaces (ParameterDecl.mk lifetime ts lead name bounds default comma)
      (ParameterDecl.mk lifetime us lead' name' bounds' default' comma) where
  eq := by
    rw [← before.eq, ← first.eq, ← named.eq, ← bounded.eq, ← given.eq]
    rfl

theorem join_unplaced (separated : Bool) (parts : List Listed) :
    Listed.join separated (unplaced parts) = unplaced (Listed.join separated parts) := by
  induction parts generalizing separated with
  | nil => rfl
  | cons p rest ih =>
    have comma (b : Bool) : unplaced (if b then Listed.commaTokens else []) =
        if b then Listed.commaTokens else [] := by
      cases b <;> rfl
    have noComma (b : Bool) : unplaced (if b then [] else Listed.commaTokens) =
        if b then [] else Listed.commaTokens := by
      cases b <;> rfl
    rw [unplaced_cons, Listed.join, Listed.join]
    simp only [unplaced_append, comma, noComma]
    rw [← ih]
    rfl

theorem arrange_unplaced (parts : List Listed) :
    Listed.arrange (unplaced parts) = unplaced (Listed.arrange parts) := by
  have kept (which : Listed → Bool) (same : ∀ p, which (unplaced p) = which p) :
      (unplaced parts).filter which = unplaced (parts.filter which) := by
    show (parts.map unplaced).filter which = (parts.filter which).map unplaced
    rw [List.filter_map]
    congr 2
    funext p
    exact same p
  unfold Listed.arrange
  rw [kept _ fun _ => rfl, kept _ fun _ => rfl, ← unplaced_append, join_unplaced]

instance (parts parts' : List Listed) [bare : Unplaces parts parts'] :
    Unplaces (Listed.arrange parts) (Listed.arrange parts') where
  eq := by rw [← bare.eq, arrange_unplaced]

instance (parts parts' : List Listed) [bare : Unplaces parts parts'] :
    Unplaces (angled parts) (angled parts') := by
  unfold angled
  infer_instance

theorem dropEmptyArguments_unplaced (ts : List Token) :
    dropEmptyArguments (unplaced ts) = unplaced (dropEmptyArguments ts) := by
  fun_cases dropEmptyArguments ts with
  | case1 => simp [dropEmptyArguments]
  | case2 _ _ _ _ before other =>
    simp only [unplaced_cons, Token.unplaced_punct]
    unfold dropEmptyArguments
    split
    · rename_i same
      simp only [List.cons.injEq] at same
      exact absurd same.2.2 (Token.signs_unplaced other _ _ _ _ _)
    · rename_i same
      simp only [List.cons.injEq] at same
      exact same.2.2.symm
    · rename_i others
      exact absurd rfl (others _ _ _ _ _)
  | case3 _ _ other =>
    unfold dropEmptyArguments
    split
    · rename_i same
      exact absurd same (Token.signs_unplaced other _ _ _ _ _)
    · rename_i same
      exact absurd same (Token.signs_unplaced other _ _ _ _ _)
    · rfl

instance [bare : Unplaces ts us] : Unplaces (dropEmptyArguments ts) (dropEmptyArguments us) where
  eq := by rw [← bare.eq, dropEmptyArguments_unplaced]

theorem mergeParens_unplaced (ts : List Token) :
    mergeParens (unplaced ts) = unplaced (mergeParens ts) := by
  rcases ts with _ | ⟨t, before⟩
  · rfl
  · cases t with
    | word | punct | literal => rfl
    | group p d inner =>
      rw [unplaced_cons, Token.unplaced_group]
      rcases inner with _ | ⟨u, _ | _⟩
      · cases d <;> simp [mergeParens]
      · cases u with
        | word | punct | literal => cases d <;> simp [mergeParens]
        | group q e inner => cases d <;> cases e <;> simp [mergeParens]
      · cases d <;> simp [mergeParens]

instance [bare : Unplaces ts us] : Unplaces (mergeParens ts) (mergeParens us) where
  eq := by rw [← bare.eq, mergeParens_unplaced]

section

variable {p q : ParameterDecl}

instance [bare : Unplaces p q] :
    Unplaces ({ p with comma := true } : ParameterDecl) { q with comma := true } :=
  ⟨congrArg (fun p : ParameterDecl => { p with comma := true }) bare.eq⟩

instance [bare : Unplaces p q] : Unplaces p.complete q.complete where
  eq := by
    rw [← bare.eq]
    show Listed.mk _ (unplaced (p.attributes ++ p.lead ++ p.name ++ p.bounds ++ p.default)) _ = _
    simp only [unplaced_append]
    rfl

instance [bare : Unplaces p q] : Unplaces p.comma q.comma where
  eq := by
    rw [← bare.eq]
    rfl

end

instance (p q : Listed) [bare : Unplaces p q] : Unplaces p.tokens q.tokens :=
  ⟨congrArg Listed.tokens bare.eq⟩

instance : Unplaces Listed.commaTokens Listed.commaTokens := ⟨Token.unplaced_ofOperator _⟩

end

/-! ### The grammar -/

/-- All readers that may be called are blind. -/
class Overlooking (g : Grammar) : Prop where
  type : ∀ plus, Blind (g.type plus)
  bound : ∀ capture const, Blind (g.bound capture const)
  expr : ∀ allow, Blind (g.expr allow)
  operand : ∀ allow, Blind (g.operand allow)
  operators : ∀ e allow least, Blind (g.operators e allow least)
  statementExpr : ∀ statement, Blind (g.statementExpr statement)
  pattern : Blind g.pattern
  statements : Blind g.statements
  item : Blind g.item
  fields : Blind g.fields
  useTree : ∀ allowRoot, Blind (g.useTree allowRoot)

attribute [instance] Overlooking.type Overlooking.bound Overlooking.expr Overlooking.operand
  Overlooking.operators Overlooking.statementExpr Overlooking.pattern Overlooking.statements
  Overlooking.item Overlooking.fields Overlooking.useTree

section

-- The instance for a reader is as long as the reader.
set_option synthInstance.maxSize 20000

variable {g : Grammar} [Overlooking g]

instance blind_modSegments (n m : Nat) [bare : Unplaces n m] :
    ReadsBare (modSegments n) (modSegments m) := by
  obtain rfl := bare.same
  clear bare
  induction n with
  | zero => exact inferInstanceAs (Blind (failPlain _))
  | succ n ih =>
    unfold modSegments
    infer_instance

instance : Blind modPath := by
  unfold modPath
  infer_instance

instance : Blind visibility := by
  refine blind_then_same _ _ fun marked => ?_
  split
  · infer_instance
  · refine blind_then _ _ fun s => ?_
    rw [rest_unplaced]
    cases s.rest with
    | nil => exact inferInstanceAs (Blind (pure _))
    | cons t rest =>
      cases t with
      | word | punct | literal => exact inferInstanceAs (Blind (pure _))
      | group p d inner =>
        rw [unplaced_cons, Token.unplaced_group]
        cases d with
        | bracket | brace => exact inferInstanceAs (Blind (pure _))
        | paren =>
          cases inner with
          | nil => exact inferInstanceAs (Blind (pure _))
          | cons u inner =>
            cases u with
            | punct | literal => exact inferInstanceAs (Blind (pure _))
            | group =>
              simp only [unplaced_cons, Token.unplaced_group]
              infer_instance
            | word q w =>
              simp only [unplaced_cons, Token.unplaced_word]
              infer_instance

instance : Blind (attributeValue g) := by
  refine blind_then _ _ fun s => ?_
  rw [rest_unplaced, frontLiteral_unplaced]
  rcases frontLiteral s.rest with _ | ⟨l, _ | ⟨t, rest⟩⟩
  · simp only [unplaced_none]
    infer_instance
  · simp only [unplaced_some, unplaced_pair, unplaced_nil]
    refine blind_then_same _ _ fun found => ?_
    cases found <;> infer_instance
  · simp only [unplaced_some, unplaced_pair, unplaced_cons]
    infer_instance

instance : Blind (attributeInside g) := by
  unfold attributeInside
  infer_instance

instance (start start' : Position) [Unplaces start start'] :
    ReadsBare (attributeBody g start) (attributeBody g start') := by
  unfold attributeBody
  infer_instance

instance : Blind (outerAttributes g) := by
  unfold outerAttributes
  infer_instance

instance : Blind (innerAttributes g) := by
  unfold innerAttributes
  infer_instance

instance (part : Parser Bool) [Blind part] : Blind (angleList part) := by
  unfold angleList
  infer_instance

instance : Blind (block g) := by
  unfold block
  infer_instance

instance : Blind (attributedBlock g) := by
  unfold attributedBlock
  infer_instance

instance : Blind builtinFollows := by
  unfold builtinFollows
  infer_instance

instance : Blind builtinForm := by
  unfold builtinForm
  infer_instance

instance : Blind (constArgument g) := by
  unfold constArgument
  infer_instance

instance (stop : Parser Bool) (bound : Parser BoundShape) [Blind stop] [Blind bound] :
    Blind (boundsUpTo stop bound) := by
  unfold boundsUpTo
  infer_instance

instance (stop : Parser Bool) (bound : Parser BoundShape) [Blind stop] [Blind bound] :
    Blind (boundsExactlyUpTo stop bound) := by
  unfold boundsExactlyUpTo
  infer_instance

instance : Blind (genericArgument g) := by
  refine blind_then_same _ _ fun lifetime => blind_then_same _ _ fun sum => ?_
  split
  · infer_instance
  · refine blind_then_same _ _ fun const => ?_
    split
    · infer_instance
    · refine blind_then_same _ _ fun shape => ?_
      cases shape with
      | path qualified plain => cases qualified <;> cases plain <;> infer_instance
      | paren | bareBounds | other => infer_instance

instance : Blind (angleArguments g) := by
  unfold angleArguments
  infer_instance

instance (plus : Bool) : Blind (returnType g plus) := by
  unfold returnType
  infer_instance

instance : Blind (parenArguments g) := by
  unfold parenArguments
  infer_instance

instance : Blind parenArgumentsFollow := by
  unfold parenArgumentsFollow
  infer_instance

instance (inExpr : Bool) : Blind (pathSegment g inExpr) := by
  unfold pathSegment
  infer_instance

instance (inExpr : Bool) : Blind (pathRest g inExpr) := by
  unfold pathRest
  infer_instance

instance (inExpr : Bool) : Blind (path g inExpr) := by
  unfold path
  infer_instance

instance (inExpr : Bool) : Blind (qualifiedPath g inExpr) := by
  refine blind_choice _ _ _ _ ?_
  infer_instance

/-! ### Parameters, bounds and conditions -/

instance (stop : Parser Bool) (bound : Parser BoundShape) [Blind stop] [Blind bound] :
    Blind (optionalBounds stop bound) := by
  unfold optionalBounds
  infer_instance

instance : Blind parameterStop := by
  unfold parameterStop
  infer_instance

instance (as as' : List Token) [Unplaces as as'] :
    ReadsBare (lifetimeParameter as) (lifetimeParameter as') := by
  unfold lifetimeParameter
  infer_instance

instance (as as' : List Token) [Unplaces as as'] :
    ReadsBare (typeParameter g as) (typeParameter g as') := by
  unfold typeParameter
  infer_instance

instance (as as' : List Token) [Unplaces as as'] :
    ReadsBare (constParameter g as) (constParameter g as') := by
  unfold constParameter
  infer_instance

instance (place : ParameterPlace) : Blind (parameter g place) := by
  unfold parameter
  infer_instance

instance (place : ParameterPlace) : Blind (parameterList g place) := by
  unfold parameterList
  infer_instance

instance : Blind (parameters g) := by
  unfold parameters
  infer_instance

instance : Blind (binder g) := by
  unfold binder
  infer_instance

instance : Blind (binder? g) := by
  unfold binder?
  infer_instance

instance : Blind parametersFollow := by
  unfold parametersFollow
  infer_instance

instance : Blind (traitPath g) := by
  unfold traitPath
  infer_instance

instance (allowConst : Bool) : Blind (traitBound g allowConst) := by
  unfold traitBound
  refine blind_then_same _ _ fun before => blind_then_same _ _ fun cond => ?_
  infer_instance

instance : Blind capturedParameter := by
  unfold capturedParameter
  infer_instance

instance : Blind captures := by
  unfold captures
  infer_instance

instance (allowCapture allowConst : Bool) : Blind (readBound g allowCapture allowConst) := by
  unfold readBound
  infer_instance

instance : Blind boundFollows := by
  unfold boundFollows
  infer_instance

instance blind_boundSumAtMost (plus allowCapture allowConst : Bool) (n m : Nat) [bare : Unplaces n m] :
    ReadsBare (boundSumAtMost g plus allowCapture allowConst n)
      (boundSumAtMost g plus allowCapture allowConst m) := by
  obtain rfl := bare.same
  clear bare
  induction n with
  | zero => exact inferInstanceAs (Blind (pure _))
  | succ n ih =>
    unfold boundSumAtMost
    infer_instance

instance (plus allowCapture allowConst : Bool) : Blind (boundSum g plus allowCapture allowConst) := by
  unfold boundSum
  infer_instance

instance : Blind conditionsStop := by
  unfold conditionsStop
  infer_instance

instance : Blind (condition g) := by
  unfold condition
  infer_instance

instance : Blind (conditions? g) := by
  unfold conditions?
  infer_instance

/-! ### Types -/

instance : Blind (moreBounds g) := by
  unfold moreBounds
  infer_instance

instance (plus : Bool) : Blind (objectBounds g plus) := by
  unfold objectBounds
  infer_instance

instance : Blind (objectType g) := by
  unfold objectType
  infer_instance

instance : Blind (parenTypeInside g) := by
  unfold parenTypeInside
  infer_instance

instance (plus : Bool) : Blind (parenType g plus) := by
  refine blind_then_same _ _ fun inside => ?_
  split
  · infer_instance
  · infer_instance
  · infer_instance
  · refine blind_then_same _ _ fun more => ?_
    split
    · infer_instance
    · split <;> infer_instance

instance (first : Bool) : Blind (functionTypeArgument g first) := by
  unfold functionTypeArgument
  infer_instance

instance : Blind openArgumentsFollow := by
  unfold openArgumentsFollow
  infer_instance

instance : Blind openArguments := by
  unfold openArguments
  infer_instance

instance blind_functionTypeArguments (n m : Nat) (first : Bool) [bare : Unplaces n m] :
    ReadsBare (functionTypeArguments g n first) (functionTypeArguments g m first) := by
  obtain rfl := bare.same
  clear bare
  induction n generalizing first with
  | zero => exact inferInstanceAs (Blind (pure ()))
  | succ n ih =>
    unfold functionTypeArguments
    infer_instance

instance : Blind convention? := by
  unfold convention?
  infer_instance

instance : Blind (functionType g) := by
  unfold functionType
  infer_instance

instance blind_traitAndMore_more (n m : Nat) [bare : Unplaces n m] :
    ReadsBare (traitAndMore.more g n) (traitAndMore.more g m) := by
  obtain rfl := bare.same
  clear bare
  induction n with
  | zero => exact inferInstanceAs (Blind (pure _))
  | succ n ih =>
    unfold traitAndMore.more
    infer_instance

instance (plus : Bool) : Blind (traitAndMore g plus) := by
  unfold traitAndMore
  infer_instance

instance (plus : Bool) (binder binder' : List Token) [Unplaces binder binder'] :
    ReadsBare (pathType g plus binder) (pathType g plus binder') := by
  unfold pathType
  infer_instance

instance (plus : Bool) : Blind (dynType g plus) := by
  unfold dynType
  infer_instance

instance : Blind (bracketType g) := by
  unfold bracketType
  infer_instance

instance : Blind (pointerType g) := by
  unfold pointerType
  infer_instance

instance : Blind (referenceType g) := by
  unfold referenceType
  infer_instance

instance (plus : Bool) : Blind (implType g plus) := by
  unfold implType
  infer_instance

instance (plus : Bool) : Blind (readType g plus) := by
  refine blind_then _ _ fun start => blind_then _ _ fun binder => ?_
  refine blind_then_same _ _ fun follows => blind_then_same _ _ fun object => ?_
  refine blind_when _ _ _ fun _ => ?_
  repeat apply blind_choice
  infer_instance

/-! ### Patterns and operators -/

instance : Blind alternativeFollows := by
  unfold alternativeFollows
  infer_instance

instance : Blind (alternatives g) := by
  unfold alternatives
  infer_instance

instance : Blind rangeLimits := by
  unfold rangeLimits
  infer_instance

instance : Blind patternRangeLimits := by
  unfold patternRangeLimits
  infer_instance

instance : Blind (constBlock g) := by
  unfold constBlock
  infer_instance

instance : Blind (rangeEnd? g) := by
  unfold rangeEnd?
  infer_instance

instance : Blind (rangeTail g) := by
  unfold rangeTail
  infer_instance

instance : Blind (rangeWithoutStart g) := by
  unfold rangeWithoutStart
  infer_instance

instance : Blind (patternList g) := by
  unfold patternList
  infer_instance

instance (l : Literal) : Blind (memberNumber l) := by
  unfold memberNumber
  split <;> infer_instance

instance : Blind member := by
  refine blind_then_same _ _ fun named => ?_
  split
  · infer_instance
  · refine blind_then _ _ fun s => ?_
    rw [rest_unplaced, frontLiteral_unplaced]
    rcases frontLiteral s.rest with _ | ⟨_ | _, rest⟩ <;>
      simp only [unplaced_none, unplaced_some, unplaced_pair, unplaced_eq] <;> infer_instance

instance : Blind (fieldPattern g) := by
  unfold fieldPattern
  infer_instance

instance : Blind (structPattern g) := by
  unfold structPattern
  infer_instance

instance : Blind (pathPattern g) := by
  unfold pathPattern
  infer_instance

instance : Blind (namePattern g) := by
  unfold namePattern
  infer_instance

instance : Blind (literalPattern g) := by
  unfold literalPattern
  infer_instance

instance : Blind (slicePatternElement g) := by
  unfold slicePatternElement
  infer_instance

instance : Blind pathPatternFollows := by
  unfold pathPatternFollows
  infer_instance

instance : Blind (readPattern g) := by
  unfold readPattern
  repeat apply blind_choice
  infer_instance

instance : Blind binaryOperator? := by
  refine blind_then _ _ fun s => ?_
  simp only [rest_unplaced, Expect.holds_unplaced]
  infer_instance

instance : Blind assignFollows := by
  unfold assignFollows
  infer_instance

instance : Blind nextPrecedence := by
  refine blind_then_same _ _ fun found => ?_
  split <;> infer_instance

instance blind_rightOperandAtMost (allow : Bool) (p : Precedence) (n m : Nat) (e : ExprShape)
    [bare : Unplaces n m] :
    ReadsBare (rightOperandAtMost g allow p n e) (rightOperandAtMost g allow p m e) := by
  obtain rfl := bare.same
  clear bare
  induction n generalizing e with
  | zero => exact inferInstanceAs (Blind (pure e))
  | succ n ih =>
    unfold rightOperandAtMost
    infer_instance

instance (allow : Bool) (p : Precedence) : Blind (rightOperand g allow p) := by
  unfold rightOperand
  infer_instance

instance : Blind dotFollows := by
  unfold dotFollows
  infer_instance

instance (allow : Bool) : Blind (rangeFrom g allow) := by
  unfold rangeFrom
  infer_instance

instance : Blind checkCast := by
  unfold checkCast
  infer_instance

instance blind_operatorsAtMost (allow : Bool) (least : Precedence) (n m : Nat) (e : ExprShape)
    [bare : Unplaces n m] :
    ReadsBare (operatorsAtMost g allow least n e) (operatorsAtMost g allow least m e) := by
  obtain rfl := bare.same
  clear bare
  induction n generalizing e with
  | zero => exact inferInstanceAs (Blind (pure e))
  | succ n ih =>
    unfold operatorsAtMost
    split
    · infer_instance
    · refine blind_then_same _ _ fun found => ?_
      split <;> infer_instance

instance (e : ExprShape) (allow : Bool) (least : Precedence) :
    Blind (readOperators g e allow least) := by
  unfold readOperators
  infer_instance

instance : Blind (arguments g) := by
  unfold arguments
  infer_instance

instance (spelling : List Char) : Blind (memberChain spelling) := by
  unfold memberChain
  infer_instance

instance : Blind (afterDot g) := by
  refine blind_then _ _ fun s => ?_
  rw [rest_unplaced, frontLiteral_unplaced]
  rcases frontLiteral s.rest with _ | ⟨⟨kind, spelling⟩ | _, rest⟩
  · simp only [unplaced_none]
    infer_instance
  · simp only [unplaced_some, unplaced_pair, unplaced_eq]
    cases kind <;> infer_instance
  · simp only [unplaced_some, unplaced_pair, unplaced_eq]
    infer_instance

instance blind_trailersAtMost (n m : Nat) (e : ExprShape) [bare : Unplaces n m] :
    ReadsBare (trailersAtMost g n e) (trailersAtMost g m e) := by
  obtain rfl := bare.same
  clear bare
  induction n generalizing e with
  | zero => exact inferInstanceAs (Blind (pure e))
  | succ n ih =>
    unfold trailersAtMost
    infer_instance

instance (e : ExprShape) : Blind (trailers g e) := by
  unfold trailers
  infer_instance

/-! ### Atoms and expressions -/

instance : Blind binderFollows := by
  refine blind_then_same _ _ fun binds => ?_
  split
  · infer_instance
  · refine blind_then _ _ fun s => ?_
    have ahead : Blind parametersFollow := inferInstance
    rw [ahead.aside { s with rest := s.rest.drop 1 }
      { unplaced s with rest := (unplaced s).rest.drop 1 }]
    cases parametersFollow.run { s with rest := s.rest.drop 1 } with
    | error e => exact inferInstanceAs (Blind (pure false))
    | ok r => exact inferInstanceAs (Blind (pure r.1))

instance : Blind exprFollows := by
  unfold exprFollows
  infer_instance

instance : Blind (closureArgument g) := by
  unfold closureArgument
  infer_instance

instance (allow : Bool) : Blind (closure g allow) := by
  -- The parameters and the four words in front of the arguments.
  iterate 5 refine blind_then_same _ _ fun _ => ?_
  infer_instance

instance : Blind (fieldValue g) := by
  unfold fieldValue
  infer_instance

instance : Blind (structLiteral g) := by
  unfold structLiteral
  infer_instance

instance (allow : Bool) : Blind (pathExpr g allow) := by
  unfold pathExpr
  infer_instance

instance : Blind (parenExpr g) := by
  unfold parenExpr
  infer_instance

instance : Blind (bracketExpr g) := by
  unfold bracketExpr
  infer_instance

instance : Blind (labelFollowsAttributes g) := by
  refine blind_then _ _ fun found => ?_
  cases found with
  | none => exact inferInstanceAs (Blind (pure false))
  | some r =>
    rw [unplaced_some]
    infer_instance

instance (allow : Bool) : Blind (breakExpr g allow) := by
  unfold breakExpr
  infer_instance

instance (allow : Bool) : Blind (letExpr g allow) := by
  unfold letExpr
  infer_instance

instance : Blind (ifExpr g) := by
  unfold ifExpr
  infer_instance

instance : Blind (whileExpr g) := by
  unfold whileExpr
  infer_instance

instance : Blind (forExpr g) := by
  unfold forExpr
  infer_instance

instance : Blind (loopExpr g) := by
  unfold loopExpr
  infer_instance

instance : Blind (arm g) := by
  unfold arm
  infer_instance

instance : Blind (matchExpr g) := by
  unfold matchExpr
  infer_instance

instance : Blind (labeledExpr g) := by
  unfold labeledExpr
  infer_instance

instance : Blind closureFollows := by
  unfold closureFollows
  infer_instance

instance : Blind asyncBlockFollows := by
  unfold asyncBlockFollows
  infer_instance

instance (allow : Bool) : Blind (keywordExpr? g allow) := by
  unfold keywordExpr?
  repeat apply blind_choice
  infer_instance

instance : Blind pathExprFollows := by
  unfold pathExprFollows
  infer_instance

instance (allow : Bool) : Blind (atom g allow) := by
  refine blind_choice _ _ _ _ (blind_choice _ _ _ _ ?_)
  refine blind_then_same _ _ fun tried => blind_then_same _ _ fun braced => ?_
  split
  · infer_instance
  · repeat apply blind_choice
    refine blind_then_same _ _ fun keyword => ?_
    split <;> infer_instance

instance (start start' : Input) (attributed attributed' allow : Bool) [Unplaces start start']
    [same : Unplaces attributed attributed'] :
    ReadsBare (atomWithTrailers g start attributed allow)
      (atomWithTrailers g start' attributed' allow) := by
  obtain rfl := same.same
  unfold atomWithTrailers
  infer_instance

instance (allow : Bool) : Blind (referenceExpr g allow) := by
  unfold referenceExpr
  infer_instance

instance (allow : Bool) : Blind (readOperand g allow) := by
  unfold readOperand
  infer_instance

instance (allow : Bool) : Blind (readExpr g allow) := by
  unfold readExpr
  infer_instance

instance : Blind (blockLike? g) := by
  unfold blockLike?
  infer_instance

instance : Blind (blockBoundedExpr g) := by
  refine blind_then_same _ _ fun found => ?_
  cases found <;> infer_instance

instance (statement : Bool) : Blind (readStatementExpr g statement) := by
  unfold readStatementExpr
  infer_instance

end

end Grammar

end SlotBinding
