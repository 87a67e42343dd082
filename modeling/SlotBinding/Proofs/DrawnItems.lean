import SlotBinding.Proofs.DrawnAttributes
import SlotBinding.Proofs.ItemRespects

/-!
# Marks and names that readers of items draw

`sourceFile_drawn`: the marks of a parsed file stand in its tokens, in the order of the file, and the names of
its structs and modules are words among its tokens.
-/

namespace SlotBinding

open Syntax Parser
open Token (drawnAll)
open Grammar (attributesDrawn)

/-! ### What declarations hold -/

namespace Syntax

def FieldDecl.drawn (f : FieldDecl) : Drawn := attributesDrawn f.attributes

abbrev fieldsDrawn (fs : List FieldDecl) : Drawn := Drawn.ofAll FieldDecl.drawn fs

def VariantDecl.drawn (v : VariantDecl) : Drawn := attributesDrawn v.attributes ++ fieldsDrawn v.fields

def MemberDecl.drawn (m : MemberDecl) : Drawn := attributesDrawn m.attributes

mutual

/-- The marks on an item and inside it, and the names of the structs and modules among them. -/
def Item.drawn : Item → Drawn
  | .struct d => attributesDrawn d.attributes ++ { names := [d.name] } ++ fieldsDrawn d.fields
  | .enum as _ vs => attributesDrawn as ++ Drawn.ofAll VariantDecl.drawn vs
  | .union as _ fs => attributesDrawn as ++ fieldsDrawn fs
  | .impl as _ ms | .trait as _ ms => attributesDrawn as ++ Drawn.ofAll MemberDecl.drawn ms
  | .mod d (some is) => attributesDrawn d.attributes ++ { names := [d.name] } ++ itemsDrawn is
  | .mod d none => attributesDrawn d.attributes ++ { names := [d.name] }
  | .simple _ as _ => attributesDrawn as
  | .shapeless => {}

def itemsDrawn : List Item → Drawn
  | [] => {}
  | i :: rest => i.drawn ++ itemsDrawn rest

end

theorem ofAll_drawn (is : List Item) : Drawn.ofAll Item.drawn is = itemsDrawn is := by
  induction is with
  | nil => rw [itemsDrawn, Drawn.ofAll]
  | cons i rest ih => rw [itemsDrawn, Drawn.ofAll, ih]

theorem names_of_mem {i : Item} {is : List Item} (among : i ∈ is) : i.drawn.names ⊆ (itemsDrawn is).names := by
  rw [← ofAll_drawn, Drawn.names_ofAll]
  intro w member
  exact List.mem_flatMap.mpr ⟨i, among, member⟩

theorem drawn_withAttributes (as : List Attribute) (i : Item) :
    (i.withAttributes as).drawn ≤ attributesDrawn as ++ i.drawn := by
  cases i with
  | shapeless => exact Drawn.nil_le _
  | struct | enum | union | impl | trait | simple =>
    simp only [Item.withAttributes, Item.drawn, attributesDrawn, Drawn.ofAll_append, Drawn.append_assoc]
    exact Drawn.le_refl _
  | mod d content =>
    cases content <;>
      simp only [Item.withAttributes, Item.drawn, attributesDrawn, Drawn.ofAll_append, Drawn.append_assoc] <;>
      exact Drawn.le_refl _

end Syntax

namespace Grammar

class Drawing (g : Grammar) : Prop extends Respecting Token.Any g where
  fields_draws : Draws {} fieldsDrawn g.fields
  item_draws : Draws {} Item.drawn g.item

open Drawing (fields_draws item_draws)

variable {g : Grammar} [Drawing g]

/-! ### Readers of items -/

set_option synthInstance.maxSize 1000 in
theorem draws_namedField : Draws {} FieldDecl.drawn (namedField g) := by
  refine draws_bind draws_outerAttributes fun as => draws_behind _ fun vis => draws_behind _ fun anon => ?_
  -- From here on nothing is added to the attributes.
  refine draws_ite (draws_behind _ fun name => ?_) (draws_behind _ fun name => ?_)
  all_goals exact draws_behind _ fun _ => draws_behind _ fun _ => draws_pure (Drawn.le_refl _)

theorem draws_tupleField : Draws {} FieldDecl.drawn (tupleField g) := by
  refine draws_bind draws_outerAttributes fun as => draws_behind _ fun vis => draws_behind _ fun type => ?_
  exact draws_pure (Drawn.le_refl _)

theorem draws_readFields : Draws {} fieldsDrawn (readFields g) :=
  draws_inGroup (draws_commaTerminated draws_namedField)

theorem draws_tupleFields : Draws {} fieldsDrawn (tupleFields g) :=
  draws_inGroup (draws_commaTerminated draws_tupleField)

theorem draws_variant : Draws {} VariantDecl.drawn (variant g) := by
  refine draws_bind draws_outerAttributes fun as => draws_behind _ fun _ => draws_behind _ fun name => ?_
  have last (fs : List FieldDecl) :
      Draws ({} ++ attributesDrawn as ++ fieldsDrawn fs) VariantDecl.drawn (do
        if ← op? "=" then discard <| g.expr true
        return { attributes := as, name := name.2, fields := fs }) :=
    draws_choice _ (draws_behind _ fun _ => draws_pure (Drawn.le_refl _)) (draws_pure (Drawn.le_refl _))
  refine draws_behind _ fun braced => draws_behind _ fun tupled => ?_
  refine draws_ite (draws_bind fields_draws last) (draws_ite (draws_bind draws_tupleFields last) ?_)
  exact draws_bind (draws_pure (Drawn.le_refl {})) last

theorem draws_declHead : Draws {} (fun head => { names := [head.name] }) (declHead g) :=
  draws_bind draws_name fun _ => draws_behind _ fun _ => draws_pure (Drawn.le_refl _)

theorem draws_structBody : Draws {} (fun r => fieldsDrawn r.1) (structBody g) := by
  refine draws_behind _ fun early => draws_behind _ fun tupled => draws_ite ?_ ?_
  · refine draws_bind draws_tupleFields fun fs => draws_behind _ fun late => ?_
    exact draws_choice _ (draws_pure (Drawn.le_refl _)) (draws_of_fails fun _ => ⟨_, rfl⟩)
  · refine draws_choice _ ?_ (draws_choice _ (draws_pure (Drawn.le_refl _)) ?_)
    · exact draws_bind fields_draws fun fs => draws_pure (Drawn.le_refl _)
    · exact draws_of_fails fun _ => ⟨_, rfl⟩

theorem draws_enumBody : Draws {} (fun r => Drawn.ofAll VariantDecl.drawn r.1) (enumBody g) := by
  refine draws_behind _ fun conditions => ?_
  exact draws_bind (draws_inGroup (draws_commaTerminated draws_variant)) fun _ => draws_pure (Drawn.le_refl _)

theorem draws_unionBody : Draws {} (fun r => fieldsDrawn r.1) (unionBody g) := by
  refine draws_behind _ fun conditions => ?_
  exact draws_bind fields_draws fun _ => draws_pure (Drawn.le_refl _)

theorem draws_structItem : Draws {} Item.drawn (structItem g) := by
  refine draws_behind _ fun vis => draws_behind _ fun _ => draws_bind draws_declHead fun head => ?_
  exact draws_bind draws_structBody fun _ => draws_pure (Drawn.le_refl _)

theorem draws_enumItem : Draws {} Item.drawn (enumItem g) := by
  refine draws_behind _ fun vis => draws_behind _ fun _ => draws_behind _ fun head => ?_
  exact draws_bind draws_enumBody fun _ => draws_pure (Drawn.le_refl _)

theorem draws_unionItem : Draws {} Item.drawn (unionItem g) := by
  refine draws_behind _ fun vis => draws_behind _ fun _ => draws_behind _ fun head => ?_
  exact draws_bind draws_unionBody fun _ => draws_pure (Drawn.le_refl _)

theorem draws_functionItem : Draws {} Item.drawn (functionItem g) := by
  refine draws_behind _ fun vis => draws_behind _ fun name => ?_
  refine draws_choice _ (draws_pure (Drawn.le_refl _)) ?_
  exact draws_bind draws_attributedBlock fun as => draws_pure (Drawn.le_refl _)

/-- The readers of items that hold nothing. -/
def bareReaders (g : Grammar) : List (Parser Item) :=
  [constItem g, staticItem g, typeItem g, externCrateItem, useItem g, invocationItem, macroItem]

omit [Drawing g] in
theorem gives_bareReaders : ∀ p ∈ bareReaders g, Gives (fun i => i.drawn ≤ {}) p := by
  simp only [bareReaders, List.forall_mem_cons, List.not_mem_nil, false_imp_iff, implies_true, and_true]
  dsimp only [constItem, staticItem, typeItem, externCrateItem, useItem, invocationItem, macroItem]
  -- Only the last step on each branch of a reader matters.
  repeat' first
    | with_reducible exact gives_failExpected _
    | with_reducible refine gives_after fun _ => ?_
    | with_reducible refine gives_pure ?_
    | with_reducible refine And.intro ?_ ?_
    | split
  all_goals exact Drawn.le_refl _

theorem draws_memberOrVerbatim {before : Drawn} {start : Input} {keep : Bool} {m : MemberDecl}
    (had : m.drawn ≤ before) :
    Draws before (drawnOption MemberDecl.drawn) (memberOrVerbatim start keep m) :=
  draws_ite (draws_pure had) (draws_behind _ fun _ => draws_pure (Drawn.nil_le _))

theorem drawn_method {as inner : List Attribute} {name : String} :
    MemberDecl.drawn { kind := .method, attributes := as ++ inner, name } ≤
      {} ++ attributesDrawn as ++ attributesDrawn inner := by
  rw [MemberDecl.drawn, attributesDrawn, Drawn.ofAll_append]
  exact Drawn.le_refl _

theorem draws_traitMember : Draws {} (drawnOption MemberDecl.drawn) (traitMember g) := by
  refine draws_behind _ fun start => draws_bind draws_outerAttributes fun as => ?_
  have method (keep : Bool) : Draws ({} ++ attributesDrawn as) (drawnOption MemberDecl.drawn) (do
      let name ← signature g false
      if ← peek (.group .brace) then
        let inner ← attributedBlock g
        memberOrVerbatim start keep { kind := .method, attributes := as ++ inner, name }
      else if ← op? ";" then memberOrVerbatim start keep { kind := .method, attributes := as, name }
      else failExpected [.group .brace, .op ";"]) := by
    refine draws_behind _ fun name => draws_choice _ ?_ (draws_choice _ ?_ ?_)
    · exact draws_bind draws_attributedBlock fun inner => draws_memberOrVerbatim drawn_method
    · exact draws_memberOrVerbatim (Drawn.le_refl _)
    · exact draws_of_fails fun _ => ⟨_, rfl⟩
  refine draws_behind _ fun vis => draws_behind _ fun default => draws_behind _ fun s => ?_
  refine draws_ite (method _) (draws_choice _ (draws_ite ?_ (draws_ite (method _) ?_)) (draws_choice _ ?_ ?_))
  · refine draws_behind _ fun _ => draws_behind _ fun c => ?_
    exact draws_memberOrVerbatim (Drawn.le_refl _)
  · exact draws_of_fails fun _ => ⟨_, rfl⟩
  · exact draws_behind _ fun t => draws_memberOrVerbatim (Drawn.le_refl _)
  · refine draws_behind _ fun follows => draws_ite ?_ (draws_of_fails fun _ => ⟨_, rfl⟩)
    exact draws_behind _ fun _ => draws_pure (Drawn.nil_le _)

theorem ofAll_filterMap (ms : List (Option MemberDecl)) :
    Drawn.ofAll MemberDecl.drawn (ms.filterMap id) = Drawn.ofAll (drawnOption MemberDecl.drawn) ms := by
  induction ms with
  | nil => rfl
  | cons m rest ih =>
    rw [Drawn.ofAll, ← ih]
    cases m <;> rfl

theorem draws_traitBody (name : String) : Draws {} Item.drawn (traitBody g name) := by
  refine draws_behind _ fun _ => draws_behind _ fun _ => draws_inGroup ?_
  refine draws_bind draws_innerAttributes fun as => draws_bind (draws_untilEnd draws_traitMember) fun ms => ?_
  refine draws_pure ?_
  rw [Item.drawn, ofAll_filterMap]
  exact Drawn.le_refl _

theorem draws_traitItem : Draws {} Item.drawn (traitItem g) := by
  refine draws_behind _ fun _ => draws_behind _ fun _ => draws_behind _ fun _ => draws_behind _ fun _ => ?_
  exact draws_behind _ fun head => draws_traitBody head.name

theorem draws_traitOrAliasItem : Draws {} Item.drawn (traitOrAliasItem g) := by
  refine draws_behind _ fun _ => draws_behind _ fun _ => draws_behind _ fun head => ?_
  refine draws_choice _ (draws_traitBody head.name) (draws_choice _ ?_ (draws_of_fails fun _ => ⟨_, rfl⟩))
  refine draws_behind _ fun _ => draws_behind _ fun _ => draws_behind _ fun _ => ?_
  exact draws_pure (Drawn.le_refl _)

theorem draws_implMember : Draws {} (drawnOption MemberDecl.drawn) (implMember g) := by
  refine draws_behind _ fun start => draws_bind draws_outerAttributes fun as => draws_behind _ fun seen => ?_
  refine draws_ite ?_ (draws_ite ?_ (draws_ite ?_ (draws_ite ?_ (draws_of_fails fun _ => ⟨_, rfl⟩))))
  · refine draws_behind _ fun _ => draws_behind _ fun _ => draws_behind _ fun name => ?_
    have last (bodiless : Bool) (inner : List Attribute) :
        Draws ({} ++ attributesDrawn as ++ attributesDrawn inner) (drawnOption MemberDecl.drawn)
          (memberOrVerbatim start (!bodiless)
            { kind := .method, attributes := as ++ inner, name := name }) :=
      draws_memberOrVerbatim drawn_method
    refine draws_behind _ fun bodiless => draws_ite ?_ (draws_bind draws_attributedBlock (last bodiless))
    exact draws_bind (draws_pure (Drawn.le_refl {})) (last bodiless)
  · refine draws_behind _ fun _ => ?_
    have const : Draws ({} ++ attributesDrawn as) (drawnOption MemberDecl.drawn) (do
        word "const"
        let c ← constBody g
        memberOrVerbatim start (c.valued && !c.generic)
          { kind := .const, attributes := as, name := c.name }) :=
      draws_behind _ fun _ => draws_behind _ fun c => draws_memberOrVerbatim (Drawn.le_refl _)
    exact draws_ite (draws_behind _ fun _ => const) const
  · refine draws_behind _ fun _ => draws_behind _ fun _ => draws_behind _ fun t => ?_
    exact draws_memberOrVerbatim (Drawn.le_refl _)
  · exact draws_behind _ fun _ => draws_pure (Drawn.nil_le _)

theorem draws_implItem : Draws {} Item.drawn (implItem g) := by
  refine draws_behind _ fun vis => draws_behind _ fun _ => draws_behind _ fun _ => draws_behind _ fun _ => ?_
  have body (keep : Bool) (target : List Token × Bool) : Draws {} Item.drawn (do
      discard <| conditions? g
      let parts ← inGroup .brace do
        return (← innerAttributes g, ← untilEnd (implMember g))
      return if keep && target.2 then .impl parts.1 target.1 (parts.2.filterMap id) else .shapeless) := by
    have inside : Draws {} (fun r => attributesDrawn r.1 ++ Drawn.ofAll (drawnOption MemberDecl.drawn) r.2)
        (do return (← innerAttributes g, ← untilEnd (implMember g))) :=
      draws_bind draws_innerAttributes fun as => draws_bind (draws_untilEnd draws_implMember) fun ms =>
        draws_pure (Drawn.le_refl _)
    refine draws_behind _ fun _ => draws_bind (draws_inGroup inside) fun r => draws_pure ?_
    split
    · rw [Item.drawn, ofAll_filterMap]
      exact Drawn.le_refl _
    · exact Drawn.nil_le _
  refine draws_behind _ fun follows => draws_when (fun _ => ?_)
  refine draws_behind _ fun marked => draws_behind _ fun asked => draws_behind _ fun second => ?_
  refine draws_ite (draws_behind _ fun _ => draws_behind _ fun _ => ?_) ?_
  all_goals
    refine draws_behind _ fun braced => draws_ite (draws_behind _ fun _ => ?_) (draws_behind _ fun _ => ?_)
    all_goals exact draws_behind _ fun target => body _ target

omit [Drawing g] in
theorem draws_foreignBlock : Draws {} Item.drawn (foreignBlock g) := by
  have block : Draws {} Item.drawn (inGroup .brace do
      let attributes ← innerAttributes g
      discard <| untilEnd (foreignMember g)
      return .simple .foreignBlock attributes none) :=
    draws_inGroup_front draws_innerAttributes fun as => gives_after fun _ => gives_pure (Drawn.le_refl _)
  refine draws_behind _ fun _ => draws_behind _ fun _ => draws_behind _ fun named => ?_
  exact draws_ite (draws_behind _ fun _ => block) block

omit [Drawing g] in
/-- A module may be named by a word that is no other name. -/
theorem draws_moduleName {k : Position × String → Parser Item}
    (next : ∀ r, Draws { names := [r.2] } Item.drawn (k r)) :
    Draws {} Item.drawn (do if ← peek (.word "try") then anyWord >>= k else name >>= k) := by
  intro s i s' ran
  obtain ⟨there, _, asked, ran⟩ := of_bind_ok ran
  cases asked
  split at ran
  · rename_i holds
    obtain ⟨r, m, read, ran⟩ := of_bind_ok ran
    have front := of_anyWord_ok read
    have own : r.2 = "try" := by simpa [front, Expect.holds] using holds
    obtain ⟨ts, parts, drawn⟩ := next r m i s' ran
    refine ⟨.word r.1 r.2 :: ts, by rw [front, parts]; rfl, ?_⟩
    have word : drawnAll (.word r.1 r.2 :: ts) = { names := [r.2] } ++ drawnAll ts := by
      rw [drawnAll, Token.drawn, own]
      rfl
    rwa [word]
  · exact draws_bind draws_name next s i s' ran

theorem draws_modItem : Draws {} Item.drawn (modItem g) := by
  refine draws_behind _ fun vis => draws_behind _ fun _ => draws_behind _ fun _ => ?_
  refine draws_moduleName fun r => draws_choice _ (draws_pure (Drawn.le_refl _)) ?_
  refine draws_choice _ ?_ (draws_of_fails fun _ => ⟨_, rfl⟩)
  have inside : Draws {} (fun r => attributesDrawn r.1 ++ itemsDrawn r.2)
      (do return (← innerAttributes g, ← untilEnd g.item)) := by
    refine draws_bind draws_innerAttributes fun as => draws_bind (draws_untilEnd item_draws) fun is => ?_
    rw [ofAll_drawn]
    exact draws_pure (Drawn.le_refl _)
  refine draws_bind (draws_inGroup inside) fun content => draws_pure ?_
  rw [Item.drawn]
  exact Drawn.names_front_le _ _ _

omit [Drawing g] in
theorem draws_externItem (ts : List Token) : Draws {} Item.drawn (externItem g ts) := by
  have crate : Draws {} Item.drawn externCrateItem :=
    draws_of_gives (gives_bareReaders (g := g) _ (by simp [bareReaders]))
  refine draws_ite crate (draws_ite draws_foreignBlock (draws_ite (draws_ite draws_foreignBlock ?_) ?_))
  all_goals exact draws_of_fails fun _ => ⟨_, rfl⟩

theorem draws_unsafeItem (ts : List Token) : Draws {} Item.drawn (unsafeItem g ts) :=
  draws_ite draws_traitItem <| draws_ite draws_implItem <| draws_ite draws_foreignBlock <|
    draws_ite draws_modItem <| draws_of_fails fun _ => ⟨_, rfl⟩

theorem draws_itemBody : Draws {} Item.drawn (itemBody g) := by
  have bare (p : Parser Item) [Advances p] (member : p ∈ bareReaders g) : Draws {} Item.drawn p :=
    draws_of_gives (gives_bareReaders p member)
  refine draws_behind _ fun seen => ?_
  -- In the order of the branches.
  refine draws_ite draws_functionItem <| draws_ite (draws_externItem _) <| draws_ite (bare _ ?_) <|
    draws_ite (bare _ ?_) <| draws_ite (bare _ ?_) <| draws_ite (draws_unsafeItem _) <|
    draws_ite draws_modItem <| draws_ite (bare _ ?_) <| draws_ite draws_structItem <|
    draws_ite draws_enumItem <| draws_ite draws_unionItem <| draws_ite draws_traitOrAliasItem <|
    draws_ite draws_traitItem <| draws_ite draws_implItem <| draws_ite (bare _ ?_) <|
    draws_ite (bare _ ?_) <| draws_of_fails fun _ => ⟨_, rfl⟩
  all_goals simp [bareReaders]

theorem draws_readItem : Draws {} Item.drawn (readItem g) := by
  refine draws_behind _ fun start => draws_bind draws_outerAttributes fun as => ?_
  refine draws_bind draws_itemBody fun i => ?_
  cases i with
  | shapeless => exact draws_behind _ fun _ => draws_pure (Drawn.nil_le _)
  | struct | enum | union | impl | trait | mod | simple => exact draws_pure (drawn_withAttributes as _)

instance : Drawing .closed where
  fields_draws := draws_of_fails fun _ => ⟨_, rfl⟩
  item_draws := draws_of_fails fun _ => ⟨_, rfl⟩

instance drawing_ofDepth (n : Nat) : Drawing (.ofDepth n) := by
  induction n with
  | zero => exact inferInstanceAs (Drawing .closed)
  | succ n ih =>
    exact { fields_draws := draws_readFields (g := .ofDepth n), item_draws := draws_readItem (g := .ofDepth n) }

def fileDrawn (f : SourceFile) : Drawn := attributesDrawn f.attributes ++ itemsDrawn f.items

theorem draws_readFile : Draws {} fileDrawn (readFile g) := by
  refine draws_bind draws_innerAttributes fun as => draws_bind (draws_untilEnd item_draws) fun is => ?_
  rw [ofAll_drawn]
  exact draws_pure (Drawn.le_refl _)

/-- What a parsed file holds stands in its tokens, the marks in the same order. -/
theorem sourceFile_drawn {source : String} {f : SourceFile} (parsed : sourceFile source = .ok f) :
    ∃ ts, fileTokens? source = some ts ∧ fileDrawn f ≤ drawnAll ts := by
  unfold sourceFile at parsed
  cases tokens : fileTokens? source with
  | none =>
    rw [tokens] at parsed
    cases parsed
  | some ts =>
    rw [tokens] at parsed
    refine ⟨ts, rfl, ?_⟩
    change (readAll readFile ts).map (·.1) = .ok f at parsed
    cases read : readAll readFile ts with
    | error e =>
      rw [read] at parsed
      cases parsed
    | ok r =>
      rw [read] at parsed
      cases parsed
      obtain ⟨s, ran, _, done⟩ := of_runAll_ok read
      obtain ⟨us, parts, drawn⟩ := draws_readFile (g := .ofDepth _) _ _ _ ran
      rw [done, List.append_nil] at parts
      obtain rfl : ts = us := parts
      exact drawn

end Grammar

end SlotBinding
