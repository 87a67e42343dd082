import Mathlib.Data.List.ProdSigma
import SlotBinding.Proofs.Files.Growth
import SlotBinding.Proofs.TokenOrder
import SlotBinding.Proofs.Visits

/-!
# How many levels a scan needs

A relative path leads from the directory of a file to one whose text begins with it, and no path that can be read
is long. So a scan that goes on from file to file without an absolute path comes to one directory and one text
again, or it ends; and there are only so many absolute paths. `exists_returns`: a scan to which `levelsFor` levels
are not enough comes to a file that leads back to itself.
-/

namespace SlotBinding

open Syntax (Item ModuleDecl SourceFile)
open Files (Path Tree)

namespace Scan

variable {t : Tree} {crateName : String}

theorem names_inside {is is' : List Item} {ds : List ModuleDecl} (way : Inside is ds is') :
    (∀ d ∈ ds, d.name ∈ (Syntax.itemsDrawn is).names) ∧
      (Syntax.itemsDrawn is').names ⊆ (Syntax.itemsDrawn is).names := by
  induction way with
  | here => exact ⟨by simp, List.Subset.refl _⟩
  | deeper among kept rest ih =>
    have within := Syntax.names_of_mem among
    simp only [Syntax.Item.drawn, Drawn.names_append, List.append_subset] at within
    obtain ⟨⟨-, own⟩, inner⟩ := within
    refine ⟨List.forall_mem_cons.mpr ⟨own List.mem_cons_self, fun d later => inner (ih.1 d later)⟩, ?_⟩
    exact List.Subset.trans ih.2 inner

def Worded (d : ModuleDecl) : Prop := Unicode.isWord (plainName d.name).toList = true

theorem worded_of_holds {p : Path} {f : SourceFile} (holds : Holds t p f) {d : ModuleDecl}
    (member : d.name ∈ (Syntax.itemsDrawn f.items).names) : Worded d := by
  obtain ⟨text, -, parsed⟩ := holds
  obtain ⟨spelled, -⟩ := Grammar.spelled_of_sourceFile parsed d.name (List.mem_append_right _ member)
  exact spelled.isWord_plainName

theorem worded_of_inside {p : Path} {f : SourceFile} (holds : Holds t p f) {is : List Item} {ds : List ModuleDecl}
    (way : Inside f.items ds is) {d : ModuleDecl} {content : Option (List Item)} (among : .mod d content ∈ is) :
    ∀ e ∈ ds ++ [d], Worded e := by
  obtain ⟨around, inner⟩ := names_inside way
  intro e member
  refine worded_of_holds holds ?_
  rcases List.mem_append.mp member with outer | own
  · exact around e outer
  · obtain rfl := List.mem_singleton.mp own
    exact inner (Syntax.names_of_mem among (by cases content <;> simp [Syntax.Item.drawn]))

theorem Worded.slashless {d : ModuleDecl} (worded : Worded d) : Path.Slashless (plainName d.name) :=
  Unicode.not_mem_of_isWord (by decide) worded

theorem Worded.relative {d : ModuleDecl} (worded : Worded d) : Path.isAbsolute (plainName d.name) = false := by
  rw [Path.isAbsolute, decide_eq_false_iff_not]
  exact fun first => worded.slashless (List.mem_of_head? first)

theorem Worded.tidy_join {d : ModuleDecl} (worded : Worded d) (base : Path) :
    (base.join (plainName d.name)).Tidy := by
  have noWord (text : String) (other : Unicode.isWord text.toList = false) : plainName d.name ≠ text := by
    rintro same
    rw [Worded, same, other] at worded
    cases worded
  exact Path.tidy_join worded.slashless worded.relative (noWord "" (by decide +kernel))
    (noWord "." (by decide +kernel)) base

theorem exists_join_inline {d : ModuleDecl} (relative : isAnchored d = false) (worded : Worded d) (dir : Path) :
    ∃ more, Path.isAbsolute more = false ∧ (Place.single dir).inline d = .single (dir.join more) := by
  unfold Place.inline
  unfold isAnchored at relative
  cases path : filePath? d.attributes with
  | none => exact ⟨_, worded.relative, rfl⟩
  | some p => exact ⟨p, by simpa [path] using relative, rfl⟩

theorem beneath_foldl {a : Path} {ds : List ModuleDecl} (relative : ∀ d ∈ ds, isAnchored d = false)
    (worded : ∀ d ∈ ds, Worded d) {dir : Path} (beneath : Path.Beneath a dir) :
    ∃ dir', ds.foldl Place.inline (.single dir) = .single dir' ∧ Path.Beneath a dir' := by
  induction ds generalizing dir with
  | nil => exact ⟨dir, rfl, beneath⟩
  | cons d rest ih =>
    obtain ⟨own, others⟩ := List.forall_mem_cons.mp relative
    obtain ⟨word, words⟩ := List.forall_mem_cons.mp worded
    obtain ⟨more, plain, step⟩ := exists_join_inline own word dir
    rw [List.foldl_cons, step]
    exact ih others words (beneath.join plain)

theorem begins_of_file? {a dir : Path} {d : ModuleDecl} {r : Path × Place} (worded : Worded d)
    (found : (Place.single dir).file? t d = some r) (named : Path.Named r.1) :
    r.2.dir.Tidy ∧ Path.Begins r.2.dir r.1 ∧
      (isAnchored d = false → a.Tidy → Path.Beneath a dir → Path.Begins a r.2.dir) := by
  unfold Place.file? at found
  cases path : filePath? d.attributes with
  | some p =>
    rw [path] at found
    obtain rfl := Option.some.inj found
    obtain ⟨q, above⟩ := Path.exists_parent?_of_named named
    obtain ⟨⟨_, _, _, lies⟩, tidy⟩ := Path.lies_of_parent? (Path.tidy_of_named named) above
    have dir_eq : (Place.single (Path.parent ((Place.single dir).base.join p))).dir = q :=
      congrArg (·.getD "") above
    rw [dir_eq]
    obtain ⟨rest, -, text⟩ := lies.eq_append
    refine ⟨tidy, ⟨rest, text⟩, fun relative tidyA beneath => ?_⟩
    exact beneath.begins_parent_join tidyA (by simpa [isAnchored, path] using relative) named above
  | none =>
    rw [path] at found
    dsimp only at found
    have below (beneath : Path.Beneath a dir) : Path.Begins a (dir.join (plainName d.name)) :=
      (beneath.join worded.relative).text
    split at found
    · obtain rfl := Option.some.inj found
      have ending : Path.isAbsolute ".rs" = false := by decide +kernel
      exact ⟨worded.tidy_join dir, ⟨".rs", Path.join_append ending _ _⟩, fun _ _ beneath => below beneath⟩
    · split at found
      · obtain rfl := Option.some.inj found
        have relative : Path.isAbsolute "mod.rs" = false := by decide +kernel
        exact ⟨worded.tidy_join dir, Path.begins_join relative _, fun _ _ beneath => below beneath⟩
      · cases found

theorem file?_of_anchored {ds : List ModuleDecl} {d : ModuleDecl} (anchored : (ds ++ [d]).any isAnchored = true)
    (a b : Path) :
    (ds.foldl Place.inline (.single a)).file? t d = (ds.foldl Place.inline (.single b)).file? t d := by
  have same {p : Path} (absolute : Path.isAbsolute p = true) : Path.join a p = Path.join b p := by
    rw [Place.join_of_isAbsolute absolute, Place.join_of_isAbsolute absolute]
  induction ds generalizing a b with
  | nil =>
    simp only [List.nil_append, List.any_cons, List.any_nil, Bool.or_false, isAnchored, Option.any_eq_true] at anchored
    obtain ⟨p, path, absolute⟩ := anchored
    simp only [List.foldl_nil, Place.file?, path, Place.single, same absolute]
  | cons e rest ih =>
    rw [List.foldl_cons, List.foldl_cons]
    cases own : isAnchored e with
    | true =>
      obtain ⟨p, path, absolute⟩ := (Option.any_eq_true _ _).mp own
      simp only [Place.inline, path, Place.single, same absolute]
    | false =>
      rw [List.cons_append, List.any_cons, own, Bool.false_or] at anchored
      rw [Place.inline_eq_single (.single a), Place.inline_eq_single (.single b)]
      refine ih anchored _ _ fun absolute => ?_
      rw [Place.join_of_isAbsolute absolute, Place.join_of_isAbsolute absolute]

theorem mem_anchoredAll {is is' : List Item} {ds : List ModuleDecl} {d : ModuleDecl} (way : Inside is ds is')
    (among : .mod d none ∈ is') (around : List ModuleDecl) (anchored : (around ++ ds ++ [d]).any isAnchored = true) :
    (around ++ ds, d) ∈ anchoredAll around is := by
  have flat (around : List ModuleDecl) (is : List Item) :
      anchoredAll around is = is.flatMap (Scan.anchored around) := by
    induction is with
    | nil => rw [anchoredAll, List.flatMap_nil]
    | cons i rest ih => rw [anchoredAll, ih, List.flatMap_cons]
  induction way generalizing around with
  | here is =>
    rw [List.append_nil] at anchored ⊢
    rw [flat]
    refine List.mem_flatMap.mpr ⟨_, among, ?_⟩
    rw [Scan.anchored, if_pos anchored]
    exact List.mem_singleton_self _
  | @deeper is is' is'' e ds here kept rest ih =>
    have split : around ++ e :: ds = around ++ [e] ++ ds := List.append_cons ..
    rw [split] at anchored ⊢
    rw [flat]
    refine List.mem_flatMap.mpr ⟨_, here, ?_⟩
    rw [Scan.anchored]
    exact ih among (around ++ [e]) anchored

def texts (t : Tree) : List String :=
  t.entries.toList.filterMap fun e =>
    match e.2 with
    | .file (.text s) => some s
    | _ => none

theorem exists_entry_of_read {p : Path} {text : String} (read : t.read p = .ok text) :
    ∃ trail, (trail, .file (.text text)) ∈ t.entries.toList := by
  obtain ⟨-, -, trail, held⟩ := Tree.of_read read
  refine ⟨trail, InsertionMap.mem_toList_of_get? ?_⟩
  unfold Tree.entry? at held
  split at held
  · cases held
  · exact held

theorem mem_texts {p : Path} {text : String} (read : t.read p = .ok text) : text ∈ texts t := by
  obtain ⟨trail, member⟩ := exists_entry_of_read read
  exact List.mem_filterMap.mpr ⟨_, member, rfl⟩

theorem mem_anchors {p : Path} {f : SourceFile} (holds : Holds t p f) {is : List Item} {ds : List ModuleDecl}
    (way : Inside f.items ds is) {d : ModuleDecl} (among : .mod d none ∈ is)
    (anchored : (ds ++ [d]).any isAnchored = true) : (ds, d) ∈ anchors t := by
  obtain ⟨text, read, parsed⟩ := holds
  obtain ⟨trail, member⟩ := exists_entry_of_read read
  refine List.mem_flatMap.mpr ⟨_, member, ?_⟩
  dsimp only
  rw [parsed]
  exact mem_anchoredAll way among [] anchored

/-! ### Travels -/

/-- Where a scan can start anew: at the root file, and at the files that an absolute path leads to. -/
def starts (t : Tree) (root : Visit) : List Visit :=
  root :: (anchors t).filterMap fun e => ((e.1.foldl Place.inline (.single "")).file? t e.2).map Visit.of

/-- The visit of a file, and that of the last file before or at it where the scan started anew. -/
abbrev Stop := Visit × Visit

def Goes (t : Tree) (y z : Stop) : Prop :=
  Leads t y.2 z.2 ∧ (z.1 = y.1 ∧ Path.Begins y.2.dir z.2.dir ∨ z.1 = z.2)

structure Passes (t : Tree) (root : Visit) (z : Stop) : Prop where
  start : z.1 ∈ starts t root
  since : Relation.ReflTransGen (Leads t) z.1 z.2
  reached : Relation.ReflTransGen (Leads t) root z.2
  tidy : z.2.dir.Tidy
  short : z.2.dir.utf8ByteSize ≤ Tree.longestPath
  reads : ∃ text, t.read z.2.path = .ok text

theorem exists_goes {root w : Visit} {y : Stop} (passes : Passes t root y) (leads : Leads t y.2 w)
    (reads : ∃ text, t.read w.path = .ok text) : ∃ z : Stop, z.2 = w ∧ Goes t y z ∧ Passes t root z := by
  obtain ⟨f, ds, is, d, holds, way, among, kept, found⟩ := id leads
  obtain ⟨r, file, rfl⟩ := Option.map_eq_some_iff.mp found
  obtain ⟨text, read⟩ := reads
  obtain ⟨named, sound, -⟩ := Tree.of_read read
  have worded := worded_of_inside holds way among
  have own : Worded d := worded d (by simp)
  have reached := passes.reached.tail leads
  have visit (s : Visit) (start : s ∈ starts t root) (since : Relation.ReflTransGen (Leads t) s (Visit.of r))
      (tidy : r.2.dir.Tidy) (begins : Path.Begins r.2.dir r.1) : Passes t root (s, Visit.of r) :=
    ⟨start, since, reached, tidy, Nat.le_trans begins.utf8ByteSize_le sound.short, text, read⟩
  cases anchored : (ds ++ [d]).any isAnchored with
  | true =>
    have anew : Visit.of r ∈ starts t root := by
      refine List.mem_cons_of_mem _ (List.mem_filterMap.mpr ⟨_, mem_anchors holds way among anchored, ?_⟩)
      rw [file?_of_anchored anchored "" y.2.dir, file]
      rfl
    rw [foldl_inline_single ds { (default : ModuleContext) with dir := y.2.dir }] at file
    obtain ⟨tidy, begins, -⟩ := begins_of_file? (a := "") own file named
    exact ⟨(Visit.of r, Visit.of r), rfl, ⟨leads, .inr rfl⟩, visit _ anew .refl tidy begins⟩
  | false =>
    have relative : ∀ e ∈ ds ++ [d], isAnchored e = false := fun e member => by
      simpa using List.any_eq_false.mp anchored e member
    obtain ⟨dir, place, beneath⟩ := beneath_foldl (fun e member => relative e (List.mem_append_left _ member))
      (fun e member => worded e (List.mem_append_left _ member)) (Path.Beneath.refl y.2.dir)
    rw [place] at file
    obtain ⟨tidy, begins, grows⟩ := begins_of_file? own file named
    have below := grows (relative d (by simp)) passes.tidy beneath
    exact ⟨(y.1, Visit.of r), rfl, ⟨leads, .inl ⟨rfl, below⟩⟩,
      visit _ passes.start (passes.since.tail leads) tidy begins⟩

theorem reads_of_stuck {n : Nat} {v : Visit} {c : ModuleContext}
    (stuck : Scan.file crateName t (n + 1) v.path c = none) : ∃ text, t.read v.path = .ok text := by
  obtain ⟨f, ⟨text, read, -⟩, -⟩ := fails_of_file stuck
  exact ⟨text, read⟩

/-- Where a scan of so many levels gives nothing, it makes so many stops. -/
theorem exists_travel {root : Visit} {n : Nat} {y : Stop} (passes : Passes t root y) {c : ModuleContext}
    (dir : c.dir = y.2.dir) (stuck : Scan.file crateName t (n + 1) y.2.path c = none) :
    ∃ rest, rest.length = n ∧ (y :: rest).IsChain (Goes t) ∧ ∀ z ∈ y :: rest, Passes t root z := by
  induction n generalizing y c with
  | zero => exact ⟨[], rfl, .singleton y, by simpa using passes⟩
  | succ n ih =>
    obtain ⟨w, c', leads, same, deeper⟩ := exists_leads dir stuck
    obtain ⟨z, rfl, goes, passesZ⟩ := exists_goes passes leads (reads_of_stuck deeper)
    obtain ⟨rest, length, chain, all⟩ := ih passesZ same deeper
    refine ⟨z :: rest, by rw [List.length_cons, length], List.isChain_cons_cons.mpr ⟨goes, chain⟩, ?_⟩
    exact List.forall_mem_cons.mpr ⟨passes, all⟩

theorem of_goes {y z : Stop} (goes : Relation.TransGen (Goes t) y z) :
    Relation.TransGen (Leads t) y.2 z.2 ∧
      (z.1 = y.1 ∧ Path.Begins y.2.dir z.2.dir ∨ Relation.TransGen (Leads t) y.2 z.1) := by
  induction goes with
  | single step =>
    refine ⟨.single step.1, step.2.imp_right fun anew => ?_⟩
    rw [anew]
    exact .single step.1
  | tail _ step ih =>
    obtain ⟨ahead, earlier⟩ := ih
    refine ⟨ahead.tail step.1, ?_⟩
    rcases step.2 with ⟨same, further⟩ | anew
    · rw [same]
      exact earlier.imp_left fun within => ⟨within.1, within.2.trans further⟩
    · rw [anew]
      exact .inr (ahead.tail step.1)

/-! ### One stop twice -/

/-- What decides where a scan goes on to, with where it started from. -/
def key (t : Tree) (z : Stop) : Visit × Nat × Option String :=
  (z.1, z.2.dir.utf8ByteSize, (t.read z.2.path).toOption)

def keys (t : Tree) (root : Visit) : List (Visit × Nat × Option String) :=
  starts t root ×ˢ (List.range (Tree.longestPath + 1) ×ˢ (texts t).map some)

theorem key_mem {root : Visit} {z : Stop} (passes : Passes t root z) : key t z ∈ keys t root := by
  obtain ⟨text, read⟩ := passes.reads
  refine List.mem_product.mpr ⟨passes.start, List.mem_product.mpr ⟨?_, ?_⟩⟩
  · exact List.mem_range.mpr (Nat.lt_succ_of_le passes.short)
  · exact List.mem_map.mpr ⟨text, mem_texts read, by simp [read, Except.toOption]⟩

theorem length_keys (t : Tree) (root : Visit) : (keys t root).length < levelsFor t := by
  have places : (starts t root).length ≤ (anchors t).length + 1 :=
    Nat.succ_le_succ (List.length_filterMap_le _ _)
  have files : (texts t).length < t.entries.size + 1 := Nat.lt_succ_of_le (List.length_filterMap_le _ _)
  rw [keys, List.length_product, List.length_product, List.length_range, List.length_map, levelsFor, Nat.mul_assoc]
  exact Nat.lt_of_le_of_lt (Nat.mul_le_mul_right _ places)
    (Nat.mul_lt_mul_of_pos_left (Nat.mul_lt_mul_of_pos_left files (Nat.succ_pos _)) (Nat.succ_pos _))

/-- Where a scan goes on to depends on the directory and on the text. -/
theorem leads_congr {v w u : Visit} (read : t.read w.path = t.read v.path) (dir : w.dir = v.dir)
    (leads : Leads t v u) : Leads t w u := by
  obtain ⟨f, ds, is, d, ⟨text, held, parsed⟩, rest⟩ := leads
  exact ⟨f, ds, is, d, ⟨text, read.trans held, parsed⟩, dir ▸ rest⟩

theorem returns_of_key_eq {root : Visit} {y z : Stop} (goes : Relation.TransGen (Goes t) y z)
    (passes : Passes t root y) (passesZ : Passes t root z) (same : key t y = key t z) :
    ∃ w, Relation.ReflTransGen (Leads t) root w ∧ Returns t w := by
  obtain ⟨ahead, within | anew⟩ := of_goes goes
  · -- The directory has not grown on the way, so the scan goes on from both stops alike.
    obtain ⟨size, content⟩ := Prod.mk.inj (Prod.mk.inj same).2
    obtain ⟨text, read⟩ := passes.reads
    obtain ⟨textZ, readZ⟩ := passesZ.reads
    rw [read, readZ] at content
    have texts : t.read z.2.path = t.read y.2.path := by
      rw [read, readZ, show textZ = text from (Option.some.inj content).symm]
    obtain ⟨u, leads, back⟩ := Relation.TransGen.head'_iff.mp ahead
    have again := leads_congr texts (within.2.eq_of_utf8ByteSize size) leads
    exact ⟨z.2, passesZ.reached, Relation.TransGen.head'_iff.mpr ⟨u, again, back⟩⟩
  · -- The scan has started anew, from where it had started before.
    rw [← (Prod.mk.inj same).1] at anew
    exact ⟨y.2, passes.reached, anew.trans_left passes.since⟩

theorem exists_returns {root : Path} (stuck : scanCrate (levelsFor t) t crateName root = none) :
    ∃ w, Relation.ReflTransGen (Leads t) (rootVisit root) w ∧ Returns t w := by
  obtain ⟨n, levels⟩ : ∃ n, levelsFor t = n + 1 :=
    Nat.exists_eq_succ_of_ne_zero (Nat.ne_of_gt (Nat.lt_of_le_of_lt (Nat.zero_le _) (length_keys t (rootVisit root))))
  rw [levels] at stuck
  obtain ⟨text, read⟩ := reads_of_stuck (v := rootVisit root) stuck
  obtain ⟨named, sound, -⟩ := Tree.of_read read
  obtain ⟨q, above⟩ := Path.exists_parent?_of_named named
  obtain ⟨⟨_, _, _, lies⟩, tidy⟩ := Path.lies_of_parent? (Path.tidy_of_named named) above
  have dir : (rootVisit root).dir = q := congrArg (·.getD "") above
  have start : Passes t (rootVisit root) (rootVisit root, rootVisit root) :=
    ⟨List.mem_cons_self, .refl, .refl, dir ▸ tidy, dir ▸ Nat.le_trans lies.utf8ByteSize_le sound.short,
      text, read⟩
  obtain ⟨rest, length, chain, all⟩ := exists_travel start rfl stuck
  by_contra free
  -- No two stops on the way have the same key, and there are more stops than keys.
  have steps : ((rootVisit root, rootVisit root) :: rest).IsChain (Relation.TransGen (Goes t)) :=
    chain.imp fun _ _ step => .single step
  have distinct : (((rootVisit root, rootVisit root) :: rest).map (key t)).Nodup := by
    refine List.pairwise_map.mpr ((List.isChain_iff_pairwise.mp steps).imp_of_mem ?_)
    exact fun first second goes same => free (returns_of_key_eq goes (all _ first) (all _ second) same)
  have few := distinct.length_le_of_subset fun k member => by
    obtain ⟨z, among, rfl⟩ := List.mem_map.mp member
    exact key_mem (all z among)
  rw [List.length_map, List.length_cons, length, ← levels] at few
  exact absurd (length_keys t (rootVisit root)) (Nat.not_lt.mpr few)

end Scan

end SlotBinding
