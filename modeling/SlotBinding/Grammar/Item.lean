import SlotBinding.Grammar.Statement
import SlotBinding.Grammar.Type

/-!
# Items

An item without a structure of its own is `shapeless`; members of traits and implementations that
have none are left out.
-/

namespace SlotBinding.Grammar

open Syntax Parser

def invocationStarts : List Expect :=
  [.name, .word "self", .word "super", .word "crate", .op "::"]

/-- A semicolon, unless the group before it was in braces. -/
def closeInvocation (d : Delimiter) : Parser Unit := do
  if d ≠ .brace then op ";"

/-- A field with a name; a name of one underscore may have a nested list of fields as its type. -/
def namedField (g : Grammar) : Parser FieldDecl := do
  let attributes ← outerAttributes g
  let visibility ← Grammar.visibility
  let anonymous ← peek (.word "_")
  let (_, name) ← if anonymous then anyWord else Parser.name
  op ":"
  let (_, type) ← captured do
    if anonymous
        && ((← peek (.word "struct")) || ((← peek (.word "union")) && (← peek2 (.group .brace)))) then
      let start ← get
      discard anyWord
      discard g.fields
      verbatimSince start
    else discard <| g.type true
  return { attributes, visibility, name := some name, type }

def tupleField (g : Grammar) : Parser FieldDecl := do
  let attributes ← outerAttributes g
  let visibility ← Grammar.visibility
  let (_, type) ← captured (g.type true)
  return { attributes, visibility, name := none, type }

def readFields (g : Grammar) : Parser (List FieldDecl) :=
  inGroup .brace (commaTerminated (namedField g))

def tupleFields (g : Grammar) : Parser (List FieldDecl) :=
  inGroup .paren (commaTerminated (tupleField g))

def variant (g : Grammar) : Parser VariantDecl := do
  let attributes ← outerAttributes g
  discard <| silently visibility
  let (_, name) ← name
  let fields ←
    if ← peek (.group .brace) then g.fields
    else if ← peek (.group .paren) then tupleFields g
    else pure []
  if ← op? "=" then discard <| g.expr true
  return { attributes, name, fields }

structure DeclHead where
  start : Position
  name : String
  parameters : List ParameterDecl

def declHead (g : Grammar) : Parser DeclHead := do
  let (start, name) ← name
  let ps ← parameters g
  return { start, name, parameters := ps.getD [] }

/-- The fields of a struct and its conditions, which stand before named fields and behind others. -/
def structBody (g : Grammar) : Parser (List FieldDecl × List Token) := do
  let (early, conditions) ← captured (conditions? g)
  if !early && (← peek (.group .paren)) then
    let fields ← tupleFields g
    let (late, conditions) ← captured (conditions? g)
    if ← op? ";" then return (fields, conditions)
    failExpected (if late then [.op ";"] else [.word "where", .op ";"])
  else if ← peek (.group .brace) then return (← g.fields, conditions)
  else if ← op? ";" then return ([], conditions)
  else
    failExpected
      (if early then [.group .brace, .op ";"]
       else [.word "where", .group .paren, .group .brace, .op ";"])

def enumBody (g : Grammar) : Parser (List VariantDecl × List Token) := do
  let (_, conditions) ← captured (conditions? g)
  return (← inGroup .brace (commaTerminated (variant g)), conditions)

def unionBody (g : Grammar) : Parser (List FieldDecl × List Token) := do
  let (_, conditions) ← captured (conditions? g)
  return (← g.fields, conditions)

def structItem (g : Grammar) : Parser Item := do
  let visibility ← Grammar.visibility
  word "struct"
  let head ← declHead g
  let (fields, _) ← structBody g
  return .struct
    { attributes := [], visibility, start := head.start, name := head.name
      generic := !head.parameters.isEmpty, fields }

def enumItem (g : Grammar) : Parser Item := do
  discard visibility
  word "enum"
  let head ← declHead g
  return .enum [] head.name (← enumBody g).1

def unionItem (g : Grammar) : Parser Item := do
  discard visibility
  word "union"
  let head ← declHead g
  return .union [] head.name (← unionBody g).1

/-! ### Functions -/

/-- Whether a receiver, a typed argument or the mark of open arguments was read. -/
inductive ArgumentKind
  | receiver
  | typed
  | openEnd

/-- The words of a receiver; says whether it is taken by reference. A path may start with the same
words. -/
def receiverWords : Parser Bool := do
  let reference ← op? "&"
  if reference then discard lifetime?
  discard <| word? "mut"
  word "self"
  if ← peek (.op "::") then failHere "expected `:`"
  return reference

/-- An argument of a function; only a receiver that is taken by value has a type, and a bare type
may stand where a name with parameters does. -/
def functionArgument (g : Grammar) : Parser ArgumentKind := do
  match ← lookAhead? receiverWords with
  | some (reference, t) =>
    advanceTo t
    let typed ← if reference then pure false else op? ":"
    if typed then discard <| g.type true
    return .receiver
  | none =>
    if (← peek .name) && (← peek2 (.op "<")) then
      write (.ofWord "_" :: Token.ofOperator [':'])
      discard <| g.type true
      return .typed
    discard g.pattern
    op ":"
    if ← op? "..." then return .openEnd
    discard <| g.type true
    return .typed

/-- The arguments from a given one on; only the first may be a receiver. -/
def functionArguments (g : Grammar) : Nat → Bool → Bool → Parser Unit
  | 0, _, _ => return ()
  | n + 1, first, received => do
    if ← atEnd then return ()
    discard <| outerAttributes g
    let kind ← if ← op? "..." then pure .openEnd else functionArgument g
    match kind with
    | .openEnd => if !(← atEnd) then op ","
    | .receiver =>
      if received then failPlain "unexpected second method receiver"
      if !first then failPlain "unexpected method receiver"
      if !(← atEnd) then
        op ","
        functionArguments g n false true
    | .typed =>
      if !(← atEnd) then
        op ","
        functionArguments g n false received

/-- The tokens behind a word, where it stands at the front. -/
def behindWord (w : String) : List Token → List Token
  | .word p v :: rest => if v == w then rest else .word p v :: rest
  | ts => ts

/-- The tokens behind a calling convention, where one stands at the front. -/
def behindConvention (ts : List Token) : List Token :=
  if (Expect.word "extern").holds ts then
    let rest := ts.drop 1
    if Expect.string.holds rest then rest.drop 1 else rest
  else ts

/-- Whether a function starts here, perhaps with words in front of `fn`. -/
def signatureFollows (allowSafe : Bool) (ts : List Token) : Bool :=
  let ts := behindWord "async" (behindWord "const" ts)
  let ts :=
    if allowSafe && (Expect.word "safe").holds ts then ts.drop 1 else behindWord "unsafe" ts
  (Expect.word "fn").holds (behindConvention ts)

/-- Whether the function that starts here is marked as safe. -/
def safeSignatureFollows (ts : List Token) : Bool :=
  (Expect.word "safe").holds (behindWord "async" (behindWord "const" ts))

/-- A function up to its body; gives its name. -/
def signature (g : Grammar) (allowSafe : Bool) : Parser String := do
  discard <| word? "const"
  discard <| word? "async"
  if !(← word? "unsafe") && allowSafe then discard <| word? "safe"
  discard convention?
  word "fn"
  let (_, name) ← name
  discard <| parameters g
  inGroup .paren do functionArguments g ((← get).rest.length + 1) true false
  discard <| returnType g true
  discard <| conditions? g
  return name

def functionItem (g : Grammar) : Parser Item := do
  discard visibility
  let name ← signature g false
  if ← op? ";" then return .shapeless
  return .simple .function (← attributedBlock g) (some name)

/-! ### Constants, statics and type aliases -/

/-- A constant behind the word `const`: its name, and whether it has parameters, conditions, and a
value. -/
structure ConstBody where
  name : String
  generic : Bool
  valued : Bool

def constBody (g : Grammar) : Parser ConstBody := do
  if !(← peekAny [.name, .word "_"]) then failExpected [.name, .word "_"]
  let (_, name) ← anyWord
  let ps ← parameters g
  op ":"
  discard <| g.type true
  let valued ← op? "="
  if valued then discard <| g.expr true
  let conditional ← conditions? g
  op ";"
  return { name, generic := ps.isSome || conditional, valued }

def constItem (g : Grammar) : Parser Item := do
  discard visibility
  word "const"
  let c ← constBody g
  return if c.valued && !c.generic then .simple .const [] (some c.name) else .shapeless

def staticItem (g : Grammar) : Parser Item := do
  discard visibility
  word "static"
  discard <| word? "mut"
  let (_, name) ← name
  if ← op? "=" then
    discard <| g.expr true
    op ";"
    return .shapeless
  op ":"
  discard <| g.type true
  if ← op? ";" then return .shapeless
  op "="
  discard <| g.expr true
  op ";"
  return .simple .static [] (some name)

inductive ConditionPlace
  | beforeEq
  | afterEq
  | both
  deriving DecidableEq

/-- Bounds behind a colon; says whether the colon is there. Without any bound it is not written. -/
def declaredBounds (g : Grammar) (stops : List Expect) : Parser Bool := do
  if !(← peek (.op ":")) then return false
  let (_, colon) ← silently (op ":")
  let (_, bounds) ← silently (boundsExactlyUpTo (peekAny stops) (g.bound false true))
  if !bounds.isEmpty then write (colon ++ bounds)
  return true

structure TypeBody where
  name : String
  bounded : Bool
  valued : Bool

def typeBody (g : Grammar) (place : ConditionPlace) : Parser TypeBody := do
  word "type"
  let (_, name) ← name
  discard <| parameters g
  let bounded ← declaredBounds g [.word "where", .op "=", .op ";"]
  let early ← if place ≠ .afterEq then conditions? g else pure false
  let valued ← op? "="
  if valued then discard <| g.type true
  if place ≠ .beforeEq && !early then discard <| conditions? g
  op ";"
  return { name, bounded, valued }

def typeItem (g : Grammar) : Parser Item := do
  discard visibility
  let t ← typeBody g .beforeEq
  return if t.valued && !t.bounded then .simple .typeAlias [] (some t.name) else .shapeless

/-! ### Traits and implementations -/

/-- An invocation among members or items; no name may follow its mark. -/
def memberInvocation : Parser Unit := do
  discard modPath
  op "!"
  closeInvocation (← rawGroup).1

/-- A member that is kept, or one that is taken as it is written in the source. -/
def memberOrVerbatim (start : Input) (keep : Bool) (m : MemberDecl) : Parser (Option MemberDecl) := do
  if keep then return some m
  verbatimSince start
  return none

def traitMember (g : Grammar) : Parser (Option MemberDecl) := do
  let start ← get
  let attributes ← outerAttributes g
  let plain := (← visibility) = .inherited && !(← word? "default")
  let method : Parser (Option MemberDecl) := do
    let name ← signature g false
    if ← peek (.group .brace) then
      let inner ← attributedBlock g
      memberOrVerbatim start plain { kind := .method, attributes := attributes ++ inner, name }
    else if ← op? ";" then memberOrVerbatim start plain { kind := .method, attributes, name }
    else failExpected [.group .brace, .op ";"]
  let ts := (← get).rest
  if (Expect.word "fn").holds ts || signatureFollows false ts then method
  else if ← peek (.word "const") then
    let second := ts.drop 1
    if Expect.name.holds second || (Expect.word "_").holds second then
      word "const"
      let c ← constBody g
      memberOrVerbatim start (plain && !c.generic) { kind := .const, attributes, name := c.name }
    else if [Expect.word "async", .word "unsafe", .word "extern", .word "fn"].any (·.holds second) then
      method
    else
      failExpectedAt second
        [.name, .word "_", .word "async", .word "unsafe", .word "extern", .word "fn"]
  else if ← peek (.word "type") then
    let t ← typeBody g .afterEq
    memberOrVerbatim start plain { kind := .type, attributes, name := t.name }
  else if plain && (← peekAny invocationStarts) then
    memberInvocation
    return none
  else
    failExpected ([.word "fn", .word "const", .word "type"] ++ if plain then invocationStarts else [])

def traitBody (g : Grammar) (name : String) : Parser Item := do
  discard <| declaredBounds g [.word "where", .group .brace]
  discard <| conditions? g
  inGroup .brace do
    let attributes ← innerAttributes g
    let members ← untilEnd (traitMember g)
    return .trait attributes name (members.filterMap id)

def traitItem (g : Grammar) : Parser Item := do
  discard visibility
  discard <| word? "unsafe"
  discard <| word? "auto"
  word "trait"
  let head ← declHead g
  traitBody g head.name

/-- A trait without marks, or another name for bounds. -/
def traitOrAliasItem (g : Grammar) : Parser Item := do
  discard visibility
  word "trait"
  let head ← declHead g
  if ← peekAny [.group .brace, .op ":", .word "where"] then traitBody g head.name
  else if ← op? "=" then
    boundsExactlyUpTo (peekAny [.word "where", .op ";"]) (g.bound false false)
    discard <| conditions? g
    op ";"
    return .simple .traitAlias [] (some head.name)
  else failExpected [.group .brace, .op ":", .word "where", .op "="]

def implMember (g : Grammar) : Parser (Option MemberDecl) := do
  let start ← get
  let attributes ← outerAttributes g
  let (vis, ahead) ← behind visibility
  let isDefault := (Expect.word "default").holds ahead && !(Expect.op "!").holds (skipTree ahead)
  let rest := if isDefault then ahead.drop 1 else ahead
  if (Expect.word "fn").holds rest || signatureFollows false rest then
    discard visibility
    discard <| word? "default"
    let name ← signature g false
    let bodiless ← op? ";"
    let inner ← if bodiless then pure [] else attributedBlock g
    memberOrVerbatim start (!bodiless) { kind := .method, attributes := attributes ++ inner, name }
  else if (Expect.word "const").holds rest then
    discard visibility
    if isDefault then word "default"
    word "const"
    let c ← constBody g
    memberOrVerbatim start (c.valued && !c.generic) { kind := .const, attributes, name := c.name }
  else if (Expect.word "type").holds rest then
    discard visibility
    discard <| word? "default"
    let t ← typeBody g .afterEq
    memberOrVerbatim start (t.valued && !t.bounded) { kind := .type, attributes, name := t.name }
  else if vis = .inherited && !isDefault && invocationStarts.any (·.holds rest) then
    memberInvocation
    return none
  else
    failExpectedAt rest
      ((if isDefault then [] else [.word "default"])
        ++ [.word "fn", .word "const", .word "type"]
        ++ if vis = .inherited && !isDefault then invocationStarts else [])

/-- The type that an implementation is for, and whether the implementation has a structure. -/
def implTarget (g : Grammar) (negative : Bool) : Parser (List Token × Bool) := do
  let (shape, first) ← captured (g.type true)
  if ← word? "for" then
    let (_, target) ← captured (g.type true)
    match shape with
    | .path false _ => return (target, true)
    | _ => return (target, false)
  else
    if negative then failPlain "inherent impls cannot be negative"
    return (first, true)

def implItem (g : Grammar) : Parser Item := do
  let inherited := (← visibility) = .inherited
  discard <| word? "default"
  discard <| word? "unsafe"
  word "impl"
  if ← parametersFollow then discard <| parameters g
  let constMark := (← peek (.word "const")) || ((← peek (.op "?")) && (← peek2 (.word "const")))
  if constMark then
    discard <| op? "?"
    word "const"
  let negative ← if ← peek2 (.group .brace) then pure false else op? "!"
  let (target, shaped) ← implTarget g negative
  discard <| conditions? g
  let (attributes, members) ← inGroup .brace do
    return (← innerAttributes g, ← untilEnd (implMember g))
  return if inherited && !constMark && shaped then .impl attributes target (members.filterMap id)
    else .shapeless

/-! ### Other items -/

def importLabel : Parser Unit := do
  if !(← word? "_") then discard name

def externCrateItem : Parser Item := do
  discard visibility
  word "extern"
  word "crate"
  let (_, name) ← if ← peek (.word "self") then anyWord else name
  if ← word? "as" then importLabel
  op ";"
  return .simple .externCrate [] (some name)

/-- A declaration in a foreign block. One that has marks, a body or a value is taken as it is written
in the source. -/
def foreignMember (g : Grammar) : Parser Unit := do
  let start ← get
  discard <| outerAttributes g
  let (vis, ahead) ← behind visibility
  let marked := (Expect.word "unsafe").holds ahead || (Expect.word "safe").holds ahead
  if (Expect.word "fn").holds ahead || signatureFollows true ahead then
    discard visibility
    let safe := safeSignatureFollows ahead
    discard <| signature g true
    let bodied ← peek (.group .brace)
    if bodied then discard <| attributedBlock g else op ";"
    if safe || bodied then verbatimSince start
  else if (Expect.word "static").holds ahead
      || (marked && (Expect.word "static").holds (skipTree ahead)) then
    discard visibility
    if !(← word? "unsafe") then discard <| word? "safe"
    word "static"
    discard <| word? "mut"
    discard name
    op ":"
    discard <| g.type true
    let valued ← op? "="
    if valued then discard <| g.expr true
    op ";"
    if marked || valued then verbatimSince start
  else if (Expect.word "type").holds ahead then
    discard visibility
    let t ← typeBody g .both
    if t.bounded || t.valued then verbatimSince start
  else if vis = .inherited && invocationStarts.any (·.holds ahead) then memberInvocation
  else
    failExpectedAt ahead
      ([.word "fn", .word "static", .word "type"]
        ++ if vis = .inherited then invocationStarts else [])

def foreignBlock (g : Grammar) : Parser Item := do
  discard <| word? "unsafe"
  word "extern"
  if ← peek .string then discard literal
  inGroup .brace do
    let attributes ← innerAttributes g
    discard <| untilEnd (foreignMember g)
    return .simple .foreignBlock attributes none

def useStarts : List Expect :=
  [.name, .word "self", .word "super", .word "crate", .word "try", .op "*", .group .brace]

/-- The tree of an import; says whether it has a structure, which it has not where a path in a group
starts with `::`. -/
def readUseTree (g : Grammar) (allowRoot : Bool) : Parser Bool := do
  if ← peekAny (useStarts.take 5) then
    discard anyWord
    if ← op? "::" then g.useTree false
    else
      if ← word? "as" then
        if ← peekAny [.name, .word "_"] then discard anyWord
        else failHere "expected identifier or underscore"
      return true
  else if ← op? "*" then return true
  else if ← peek (.group .brace) then
    let parts ← inGroup .brace <| commaTerminated do
      let rooted ← if allowRoot then op? "::" else pure false
      return (← g.useTree (allowRoot && !rooted)) && !rooted
    return parts.all id
  else failExpected useStarts

def useItem (g : Grammar) : Parser Item := do
  discard visibility
  word "use"
  let rooted ← op? "::"
  let shaped ← g.useTree !rooted
  op ";"
  return if shaped then .simple .import [] none else .shapeless

def modItem (g : Grammar) : Parser Item := do
  let visibility ← Grammar.visibility
  discard <| word? "unsafe"
  word "mod"
  let (start, name) ← if ← peek (.word "try") then anyWord else name
  if ← op? ";" then return .mod { attributes := [], visibility, start, name } none
  else if ← peek (.group .brace) then
    let (attributes, items) ← inGroup .brace do
      return (← innerAttributes g, ← untilEnd g.item)
    return .mod { attributes, visibility, start, name } (some items)
  else failExpected [.op ";", .group .brace]

/-- An invocation that stands as an item, perhaps with the name of what it declares. -/
def invocationItem : Parser Item := do
  discard modPath
  op "!"
  let name ← do
    if ← peekAny [.word "try", .name] then pure (some (← anyWord).2) else pure none
  closeInvocation (← rawGroup).1
  return .simple .invocation [] name

/-- A definition by the word that such invocations are also known by. -/
def macroItem : Parser Item := do
  discard visibility
  word "macro"
  discard name
  let early ← peek (.group .paren)
  if early then discard rawGroup
  if ← peek (.group .brace) then
    discard rawGroup
    return .shapeless
  else failExpected (if early then [.group .brace] else [.group .paren, .group .brace])

def itemStarts : List Expect :=
  ["fn", "extern", "use", "static", "const", "unsafe", "mod", "type", "struct", "enum", "union",
   "trait", "auto", "impl", "default", "macro"].map .word

/-- An item that starts with the word `extern`; the tokens are those behind it. -/
def externItem (g : Grammar) (behindWord : List Token) : Parser Item := do
  if (Expect.word "crate").holds behindWord then externCrateItem
  else if (Expect.group .brace).holds behindWord then foreignBlock g
  else if Expect.string.holds behindWord then
    let rest := behindWord.drop 1
    if (Expect.group .brace).holds rest then foreignBlock g
    else failExpectedAt rest [.group .brace]
  else failExpectedAt behindWord [.word "crate", .group .brace, .string]

/-- An item that starts with the word `unsafe`; the tokens are those behind it. -/
def unsafeItem (g : Grammar) (behindWord : List Token) : Parser Item := do
  let auto := (Expect.word "auto").holds behindWord
    && (Expect.word "trait").holds (skipTree behindWord)
  if (Expect.word "trait").holds behindWord || auto then traitItem g
  else if (Expect.word "impl").holds behindWord then implItem g
  else if (Expect.word "extern").holds behindWord then foreignBlock g
  else if (Expect.word "mod").holds behindWord then modItem g
  else
    failExpectedAt behindWord
      [.word "trait", .word "auto", .word "impl", .word "extern", .word "mod"]

def itemBody (g : Grammar) : Parser Item := do
  let (vis, ahead) ← behind visibility
  let at1 (w : String) : Bool := (Expect.word w).holds ahead
  let second := skipTree ahead
  if at1 "fn" || signatureFollows false ahead then functionItem g
  else if at1 "extern" then externItem g (ahead.drop 1)
  else if at1 "use" then useItem g
  else if at1 "static" then staticItem g
  else if at1 "const" then constItem g
  else if at1 "unsafe" then unsafeItem g (ahead.drop 1)
  else if at1 "mod" then modItem g
  else if at1 "type" then typeItem g
  else if at1 "struct" then structItem g
  else if at1 "enum" then enumItem g
  else if at1 "union" && Expect.name.holds second then unionItem g
  else if at1 "trait" then traitOrAliasItem g
  else if at1 "auto" && (Expect.word "trait").holds second then traitItem g
  else if at1 "impl" || (at1 "default" && !(Expect.op "!").holds second) then implItem g
  else if at1 "macro" then macroItem
  else if vis = .inherited && invocationStarts.any (·.holds ahead) then invocationItem
  else failExpectedAt ahead (itemStarts ++ if vis = .inherited then invocationStarts else [])

/-- An item; a shapeless one is taken as it is written in the source. -/
def readItem (g : Grammar) : Parser Item := do
  let start ← get
  let attributes ← outerAttributes g
  match ← itemBody g with
  | .shapeless =>
    verbatimSince start
    return .shapeless
  | item => return item.withAttributes attributes

end SlotBinding.Grammar
