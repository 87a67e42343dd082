import Mathlib.Data.List.Basic
import SlotBinding.Files.Path

/-!
# Paths and their parts

What the parts of a joined path are, and of the directory that a path lies in, and how long their texts are.
-/

namespace SlotBinding.Files.Path

/-! ### Parts -/

theorem splitSlash_ne_nil (cs : List Char) : splitSlash cs ≠ [] := by
  cases cs with
  | nil => simp [splitSlash]
  | cons c rest =>
    rw [splitSlash]
    split
    · simp
    · split <;> simp

theorem splitSlash_append (as bs : List Char) :
    splitSlash (as ++ '/' :: bs) = splitSlash as ++ splitSlash bs := by
  induction as with
  | nil => rfl
  | cons c rest ih =>
    rw [List.cons_append, splitSlash, splitSlash, ih]
    split
    · rfl
    · cases parts : splitSlash rest with
      | nil => exact absurd parts (splitSlash_ne_nil rest)
      | cons first more => rfl

theorem splitSlash_of_not_mem {cs : List Char} (none : '/' ∉ cs) : splitSlash cs = [cs] := by
  induction cs with
  | nil => rfl
  | cons c rest ih =>
    have other : c ≠ '/' := (List.ne_of_not_mem_cons none).symm
    rw [splitSlash, if_neg other, ih (List.not_mem_of_not_mem_cons none)]

theorem not_mem_of_mem_splitSlash {cs part : List Char} (member : part ∈ splitSlash cs) : '/' ∉ part := by
  induction cs generalizing part with
  | nil =>
    obtain rfl := List.mem_singleton.mp member
    exact List.not_mem_nil
  | cons c rest ih =>
    rw [splitSlash] at member
    split at member
    · rcases List.mem_cons.mp member with rfl | later
      · exact List.not_mem_nil
      · exact ih later
    · rename_i other
      cases parts : splitSlash rest with
      | nil => exact absurd parts (splitSlash_ne_nil rest)
      | cons first more =>
        rw [parts] at ih member
        rcases List.mem_cons.mp member with rfl | later
        · exact List.not_mem_cons_of_ne_of_not_mem (Ne.symm other) (ih List.mem_cons_self)
        · exact ih (List.mem_cons_of_mem _ later)

def Slashless (x : String) : Prop := '/' ∉ x.toList

theorem parts_slash (p q : Path) : parts (p ++ "/" ++ q) = parts p ++ parts q := by
  have chars : (p ++ "/" ++ q).toList = p.toList ++ '/' :: q.toList := by simp
  rw [parts, chars, splitSlash_append, List.map_append]
  rfl

theorem parts_of_slashless {x : String} (plain : Slashless x) : parts x = [x] := by
  rw [parts, splitSlash_of_not_mem plain, List.map_singleton, String.ofList_toList]

theorem slashless_of_mem_parts {p : Path} {x : String} (member : x ∈ parts p) : Slashless x := by
  obtain ⟨cs, among, rfl⟩ := List.mem_map.mp member
  rw [Slashless, String.toList_ofList]
  exact not_mem_of_mem_splitSlash among

theorem parts_ne_nil (p : Path) : parts p ≠ [] := by
  rw [parts, Ne, List.map_eq_nil_iff]
  exact splitSlash_ne_nil _

theorem parts_ofParts {ps : List String} (some : ps ≠ []) (plain : ∀ x ∈ ps, Slashless x) :
    parts (ofParts ps) = ps := by
  unfold ofParts
  induction ps with
  | nil => exact absurd rfl some
  | cons x rest ih =>
    have first := parts_of_slashless (plain x List.mem_cons_self)
    cases rest with
    | nil => rw [String.intercalate_singleton, first]
    | cons y more =>
      rw [String.intercalate_cons_cons, parts_slash, first,
        ih (List.cons_ne_nil _ _) fun z member => plain z (List.mem_cons_of_mem _ member)]
      rfl

theorem ofParts_splitSlash (cs : List Char) : ofParts ((splitSlash cs).map String.ofList) = String.ofList cs := by
  unfold ofParts
  induction cs with
  | nil => rfl
  | cons c rest ih =>
    rw [splitSlash]
    cases parts : splitSlash rest with
    | nil => exact absurd parts (splitSlash_ne_nil rest)
    | cons first more =>
      rw [parts] at ih
      split
      · rename_i slash
        subst slash
        rw [List.map_cons, List.map_cons, String.intercalate_cons_cons, ← List.map_cons, ih]
        apply String.toList_inj.mp
        simp
      · have front : String.ofList (c :: first) = String.ofList [c] ++ String.ofList first := by
          apply String.toList_inj.mp
          simp
        rw [List.map_cons, front, String.intercalate_cons_append, ← List.map_cons, ih]
        apply String.toList_inj.mp
        simp

theorem ofParts_parts (p : Path) : ofParts (parts p) = p := by
  rw [parts, ofParts_splitSlash, String.ofList_toList]

theorem parts_injective {p q : Path} (same : p.parts = q.parts) : p = q := by
  rw [← ofParts_parts p, same, ofParts_parts]

theorem ofParts_append {ps qs : List String} (left : ps ≠ []) (right : qs ≠ []) :
    ofParts (ps ++ qs) = ofParts ps ++ "/" ++ ofParts qs :=
  String.intercalate_append_of_ne_nil left right

/-! ### Joined paths -/

theorem isAbsolute_append {ending : Path} (relative : isAbsolute ending = false) (name : String) :
    isAbsolute (name ++ ending) = isAbsolute name := by
  unfold isAbsolute at relative ⊢
  rw [String.toList_append]
  cases name.toList with
  | nil => simpa using relative
  | cons c rest => rfl

theorem join_append {ending : Path} (relative : isAbsolute ending = false) (base name : Path) :
    join base (name ++ ending) = join base name ++ ending := by
  unfold join
  rw [isAbsolute_append relative]
  split
  · rfl
  · split <;> simp only [String.append_assoc]

/-- The parts of a joined path are those of both paths, without those between them that are empty. -/
theorem parts_join {more : Path} (relative : isAbsolute more = false) (base : Path) :
    ∃ front gap, base.parts = front ++ gap ∧ (∀ x ∈ gap, x = "") ∧
      (join base more).parts = front ++ more.parts := by
  unfold join
  rw [relative, if_neg Bool.false_ne_true]
  split
  · rename_i open'
    by_cases empty : base = ""
    · subst empty
      refine ⟨[], [""], rfl, by simp, ?_⟩
      rw [String.empty_append]
      rfl
    · have slash : base.toList.getLast? = some '/' := by
        simpa [empty] using open'
      obtain ⟨front, chars⟩ := List.getLast?_eq_some_iff.mp slash
      have base_eq : base = String.ofList front ++ "/" ++ "" := by
        apply String.toList_inj.mp
        simp [chars]
      refine ⟨parts (String.ofList front), [""], ?_, by simp, ?_⟩
      · rw [base_eq, parts_slash]
        rfl
      · rw [base_eq, String.append_empty, parts_slash]
  · exact ⟨base.parts, [], (List.append_nil _).symm, by simp, parts_slash base more⟩

theorem isAbsolute_append_left {p : Path} (some : p ≠ "") (rest : String) :
    isAbsolute (p ++ rest) = isAbsolute p := by
  have chars : p.toList ≠ [] := fun empty => some (String.toList_inj.mp empty)
  unfold isAbsolute
  rw [String.toList_append, List.head?_append_of_ne_nil _ chars]

theorem isAbsolute_join {more : Path} (relative : isAbsolute more = false) (base : Path) :
    isAbsolute (join base more) = isAbsolute base := by
  unfold join
  rw [relative, if_neg Bool.false_ne_true]
  split
  · exact isAbsolute_append relative base
  · rename_i closed
    have some : base ≠ "" := by
      rintro rfl
      simp at closed
    rw [String.append_assoc, isAbsolute_append_left some]

/-! ### Directories above a path -/

theorem trimmed_suffix (ps : List String) : trimmed ps <:+ ps := by
  fun_induction trimmed ps with
  | case1 => exact List.suffix_refl _
  | case2 p => exact List.suffix_refl _
  | case3 p rest _ _ ih => exact ih.trans (List.suffix_cons _ _)
  | case4 p rest => exact List.suffix_refl _

theorem trimmed_spec {ps : List String} (some : ps ≠ []) :
    ∃ dropped kept, ps = dropped ++ kept ∧ trimmed ps = kept ∧ kept ≠ [] ∧
      (∀ x ∈ dropped, x = "" ∨ x = ".") ∧ trimmed kept = kept := by
  fun_induction trimmed ps with
  | case1 => exact absurd rfl some
  | case2 p => exact ⟨[], [p], rfl, rfl, by simp, by simp, rfl⟩
  | case3 p rest more skip ih =>
    obtain ⟨dropped, kept, split, same, rest', skipped, again⟩ := ih more
    refine ⟨p :: dropped, kept, by rw [split, List.cons_append], same, rest', ?_, again⟩
    exact List.forall_mem_cons.mpr ⟨by simpa using skip, skipped⟩
  | case4 p rest more stays =>
    exact ⟨[], p :: rest, rfl, rfl, by simp, by simp, by rw [trimmed, if_neg stays]; exact more⟩

/-- The path does not end in something that leads nowhere. -/
def Tidy (p : Path) : Prop := p = "/" ∨ trimmed p.parts.reverse = p.parts.reverse

/-- How a path lies in the directory above it: a name stands behind the parts of the directory, which are
empty or a slash where the text of the directory is. -/
structure Lies (p q : Path) (front dropped : List String) (x : String) : Prop where
  parts : p.parts = front ++ dropped ++ [x]
  skipped : ∀ y ∈ dropped, y = "" ∨ y = "."
  name : x ≠ ""
  above : q ≠ "" ∧ q.parts = front ∨ q = "/" ∧ front = [""] ∨ q = "" ∧ front = [] ∧ dropped = []

theorem head_of_trimmed {x y : String} {rest : List String}
    (fixed : trimmed (x :: y :: rest) = x :: y :: rest) : ¬(x = "" ∨ x = ".") := by
  intro skip
  rw [trimmed, if_pos (by simpa using skip)] at fixed
  · have size := (trimmed_suffix (y :: rest)).length_le
    rw [fixed, List.length_cons] at size
    omega
  · simp

theorem lies_of_parent? {p q : Path} (tidy : Tidy p) (above : parent? p = some q) :
    (∃ front dropped x, Lies p q front dropped x) ∧ Tidy q := by
  obtain rfl | fixed := tidy
  · have none : parent? "/" = none := by decide +kernel
    rw [none] at above
    cases above
  · unfold parent? at above
    rw [fixed] at above
    cases reversed : p.parts.reverse with
    | nil => exact absurd (List.reverse_eq_nil_iff.mp reversed) (parts_ne_nil p)
    | cons x rest =>
      rw [reversed] at above fixed
      have parts : p.parts = rest.reverse ++ [x] := by
        rw [← List.reverse_reverse p.parts, reversed, List.reverse_cons]
      cases rest with
      | nil =>
        dsimp only at above
        split at above
        · cases above
        · rename_i name
          obtain rfl := Option.some.inj above
          exact ⟨⟨[], [], x, parts, by simp, name, .inr (.inr ⟨rfl, rfl, rfl⟩)⟩, .inr (by decide +kernel)⟩
      | cons y more =>
        have name := head_of_trimmed fixed
        obtain ⟨dropped, kept, split, same, some, skipped, again⟩ :=
          trimmed_spec (List.cons_ne_nil y more)
        have layout : p.parts = kept.reverse ++ dropped.reverse ++ [x] := by
          rw [parts, split, List.reverse_append]
        have skips : ∀ z ∈ dropped.reverse, z = "" ∨ z = "." := fun z member =>
          skipped z (List.mem_reverse.mp member)
        dsimp only at above
        rw [same] at above
        split at above
        · obtain rfl := Option.some.inj above
          exact ⟨⟨[""], dropped.reverse, x, layout, skips, fun empty => name (.inl empty),
            .inr (.inl ⟨rfl, rfl⟩)⟩, .inl rfl⟩
        · rename_i notRoot
          obtain rfl := Option.some.inj above
          have plain : ∀ z ∈ kept.reverse, Slashless z := by
            intro z member
            refine slashless_of_mem_parts (p := p) ?_
            rw [layout]
            simp [List.mem_reverse.mp member]
          have front := parts_ofParts (by simpa using some) plain
          have nonempty : ofParts kept.reverse ≠ "" := by
            intro empty
            rw [empty] at front
            have root : kept = [""] := List.reverse_eq_iff.mp front.symm
            exact notRoot root
          refine ⟨⟨kept.reverse, dropped.reverse, x, layout, skips, fun empty => name (.inl empty),
            .inl ⟨nonempty, front⟩⟩, .inr ?_⟩
          rw [front, List.reverse_reverse, again]

namespace Lies

variable {p q : Path} {front dropped : List String} {x : String}

theorem behind_ne (lies : Lies p q front dropped x) : ofParts (dropped ++ [x]) ≠ "" := by
  intro empty
  have plain : ∀ z ∈ dropped ++ [x], Slashless z := by
    intro z member
    refine slashless_of_mem_parts (p := p) ?_
    rw [lies.parts, List.append_assoc]
    exact List.mem_append_right _ member
  have parts := parts_ofParts (by simp) plain
  rw [empty, show Path.parts "" = [""] from rfl] at parts
  have last : "" = x := by simpa using congrArg List.getLast? parts
  exact lies.name last.symm

theorem eq_append (lies : Lies p q front dropped x) : ∃ rest, rest ≠ "" ∧ p = q ++ rest := by
  have whole := ofParts_parts p
  rw [lies.parts, List.append_assoc] at whole
  have behind : dropped ++ [x] ≠ [] := by simp
  obtain ⟨_, parts⟩ | ⟨rfl, rfl⟩ | ⟨rfl, rfl, rfl⟩ := lies.above
  · have some : front ≠ [] := parts ▸ parts_ne_nil q
    rw [ofParts_append some behind, ← parts, ofParts_parts, String.append_assoc] at whole
    exact ⟨_, by simp, whole.symm⟩
  · rw [ofParts_append (List.cons_ne_nil _ _) behind] at whole
    refine ⟨ofParts (dropped ++ [x]), lies.behind_ne, whole.symm.trans ?_⟩
    apply String.toList_inj.mp
    simp [ofParts]
  · refine ⟨ofParts [x], lies.behind_ne, whole.symm.trans ?_⟩
    rw [String.empty_append]
    rfl

theorem length_lt (lies : Lies p q front dropped x) : q.length < p.length := by
  obtain ⟨rest, some, rfl⟩ := lies.eq_append
  have longer : 0 < rest.length := by
    rw [Nat.pos_iff_ne_zero, ← String.length_toList, Ne, List.length_eq_zero_iff]
    exact fun empty => some (String.toList_inj.mp empty)
  rw [String.length_append]
  omega

theorem utf8ByteSize_le (lies : Lies p q front dropped x) : q.utf8ByteSize ≤ p.utf8ByteSize := by
  obtain ⟨rest, _, rfl⟩ := lies.eq_append
  rw [String.utf8ByteSize_append]
  omega

theorem mem_of_mem (lies : Lies p q front dropped x) {c : Char} (member : c ∈ q.toList) : c ∈ p.toList := by
  obtain ⟨rest, _, rfl⟩ := lies.eq_append
  rw [String.toList_append]
  exact List.mem_append_left _ member

theorem isAbsolute_eq (lies : Lies p q front dropped x) : isAbsolute q = isAbsolute p := by
  obtain ⟨some, _⟩ | ⟨slash, _⟩ | ⟨rfl, rfl, rfl⟩ := lies.above
  · obtain ⟨rest, _, rfl⟩ := lies.eq_append
    exact (isAbsolute_append_left some rest).symm
  · obtain ⟨rest, _, rfl⟩ := lies.eq_append
    rw [isAbsolute_append_left (by rw [slash]; decide)]
  · -- A single name has no slash in it.
    have plain : Slashless p := by
      refine slashless_of_mem_parts (p := p) ?_
      have whole := ofParts_parts p
      rw [lies.parts] at whole ⊢
      have name : x = p := by simpa [ofParts] using whole
      simp [name]
    unfold isAbsolute
    cases chars : p.toList with
    | nil => rfl
    | cons c rest =>
      rw [Slashless, chars] at plain
      have other : c ≠ '/' := (List.ne_of_not_mem_cons plain).symm
      simp [other]

end Lies

theorem exists_parent? {p : Path} (tidy : Tidy p) (nonempty : p ≠ "") (notRoot : p ≠ "/") :
    ∃ q, parent? p = some q := by
  have fixed := tidy.resolve_left notRoot
  unfold parent?
  rw [fixed]
  cases reversed : p.parts.reverse with
  | nil => exact absurd (List.reverse_eq_nil_iff.mp reversed) (parts_ne_nil p)
  | cons x rest =>
    cases rest with
    | nil =>
      have single : p = x := by
        rw [← ofParts_parts p, List.reverse_eq_iff.mp reversed]
        simp [ofParts]
      exact ⟨"", by simp [← single, nonempty]⟩
    | cons y more =>
      dsimp only
      split
      · exact ⟨_, rfl⟩
      · exact ⟨_, rfl⟩

theorem parent?_empty : parent? "" = none := by decide +kernel

theorem go_eq_go {p : Path} (tidy : Tidy p) {m n : Nat} (enough : p.length ≤ m) (enough' : p.length ≤ n) :
    ancestors.go m p = ancestors.go n p := by
  induction m generalizing n p with
  | zero =>
    obtain rfl : p = "" := String.length_eq_zero_iff.mp (by omega)
    cases n with
    | zero => rfl
    | succ n => rw [ancestors.go, ancestors.go, parent?_empty]
  | succ m ih =>
    cases above : parent? p with
    | none => cases n <;> simp [ancestors.go, above]
    | some q =>
      obtain ⟨⟨_, _, _, lies⟩, tidyAbove⟩ := lies_of_parent? tidy above
      have shorter := lies.length_lt
      cases n with
      | zero => omega
      | succ n =>
        rw [ancestors.go, ancestors.go, above]
        exact congrArg (p :: ·) (ih tidyAbove (by omega) (by omega))

theorem ancestors_eq {p : Path} (tidy : Tidy p) :
    ancestors p = p :: match parent? p with
      | some q => ancestors q
      | none => [] := by
  cases above : parent? p with
  | none =>
    unfold ancestors
    cases p.length <;> simp [ancestors.go, above]
  | some q =>
    obtain ⟨⟨_, _, _, lies⟩, tidyAbove⟩ := lies_of_parent? tidy above
    have shorter := lies.length_lt
    unfold ancestors
    cases size : p.length with
    | zero => omega
    | succ n =>
      rw [ancestors.go, above]
      exact congrArg (p :: ·) (go_eq_go tidyAbove (by omega) (Nat.le_refl _))

/-! ### Directories at the front of a path -/

def Named (p : Path) : Prop := ∃ front x, p.parts = front ++ [x] ∧ x ≠ "" ∧ x ≠ "."

theorem tidy_of_named {p : Path} (named : Named p) : Tidy p := by
  obtain ⟨front, x, parts, name, other⟩ := named
  refine .inr ?_
  rw [parts, List.reverse_append, List.reverse_singleton, List.singleton_append]
  cases front.reverse with
  | nil => rfl
  | cons y rest =>
    rw [trimmed, if_neg (by simp [name, other])]
    exact List.cons_ne_nil y rest

theorem exists_parent?_of_named {p : Path} (named : Named p) : ∃ q, parent? p = some q := by
  have tidy := tidy_of_named named
  obtain ⟨front, x, parts, name, -⟩ := named
  have last (q : Path) (empty : q.parts.getLast? = some "") : p ≠ q := by
    rintro rfl
    rw [parts, List.getLast?_concat] at empty
    exact name (Option.some.inj empty)
  exact exists_parent? tidy (last "" rfl) (last "/" rfl)

def Begins (dir p : Path) : Prop := ∃ rest, p = dir ++ rest

theorem begins_refl (p : Path) : Begins p p := ⟨"", String.append_empty.symm⟩

theorem Begins.trans {p q r : Path} (first : Begins p q) (second : Begins q r) : Begins p r := by
  obtain ⟨rest, rfl⟩ := first
  obtain ⟨more, rfl⟩ := second
  exact ⟨rest ++ more, String.append_assoc ..⟩

theorem Begins.utf8ByteSize_le {p q : Path} (begins : Begins p q) : p.utf8ByteSize ≤ q.utf8ByteSize := by
  obtain ⟨rest, rfl⟩ := begins
  rw [String.utf8ByteSize_append]
  exact Nat.le_add_right _ _

theorem Begins.eq_of_utf8ByteSize {p q : Path} (begins : Begins p q) (same : p.utf8ByteSize = q.utf8ByteSize) :
    q = p := by
  obtain ⟨rest, rfl⟩ := begins
  rw [String.utf8ByteSize_append] at same
  rw [String.utf8ByteSize_eq_zero_iff.mp (by omega : rest.utf8ByteSize = 0), String.append_empty]

theorem begins_join {more : Path} (relative : isAbsolute more = false) (base : Path) :
    Begins base (join base more) := by
  unfold join
  rw [relative, if_neg Bool.false_ne_true]
  split
  · exact ⟨more, rfl⟩
  · exact ⟨"/" ++ more, String.append_assoc ..⟩

theorem begins_ofParts {ps qs : List String} (some : ps ≠ []) (front : ps <+: qs) :
    Begins (ofParts ps) (ofParts qs) := by
  obtain ⟨more, rfl⟩ := front
  by_cases none : more = []
  · rw [none, List.append_nil]
    exact begins_refl _
  · rw [ofParts_append some none]
    exact ⟨"/" ++ ofParts more, String.append_assoc ..⟩

theorem exists_parts_join {ps : List String} {base more : Path} (closed : ps.getLast? ≠ some "")
    (front : ps <+: base.parts) (relative : isAbsolute more = false) :
    ∃ rest, rest ≠ [] ∧ (join base more).parts = ps ++ rest := by
  obtain ⟨kept, gap, parts, empty, joined⟩ := parts_join relative base
  rw [parts] at front
  have within : ps <+: kept := by
    rcases List.prefix_or_prefix_of_prefix front (List.prefix_append kept gap) with within | ⟨part, rfl⟩
    · exact within
    · obtain ⟨behind, gap_eq⟩ : part <+: gap := (List.prefix_append_right_inj kept).mp front
      cases last : part.getLast? with
      | none => simp [List.getLast?_eq_none_iff.mp last]
      | some x =>
        have among : x ∈ gap := by
          rw [← gap_eq]
          exact List.mem_append_left _ (List.mem_of_getLast? last)
        rw [List.getLast?_append, last, empty x among] at closed
        exact absurd rfl closed
  obtain ⟨rest, rfl⟩ := within
  refine ⟨rest ++ more.parts, ?_, by rw [joined, List.append_assoc]⟩
  exact List.append_ne_nil_of_right_ne_nil _ (parts_ne_nil more)

theorem last_of_tidy {p : Path} (tidy : Tidy p) (nonempty : p ≠ "") (notRoot : p ≠ "/") :
    p.parts.getLast? ≠ some "" ∧ (p.parts.getLast? = some "." → p.parts = ["."]) := by
  have fixed := tidy.resolve_left notRoot
  rw [List.getLast?_eq_head?_reverse]
  cases reversed : p.parts.reverse with
  | nil => exact absurd (List.reverse_eq_nil_iff.mp reversed) (parts_ne_nil p)
  | cons x rest =>
    rw [reversed] at fixed
    cases rest with
    | nil =>
      have parts : p.parts = [x] := List.reverse_eq_iff.mp reversed
      have single : p = x := by
        rw [← ofParts_parts p, parts]
        simp [ofParts]
      rw [parts, ← single]
      exact ⟨by simpa using nonempty, fun dot => by rw [Option.some.inj dot]⟩
    | cons y more =>
      have name := head_of_trimmed fixed
      exact ⟨fun empty => name (.inl (Option.some.inj empty)), fun dot => absurd (.inr (Option.some.inj dot)) name⟩

/-- The parts of a tidy directory end before those that are dropped behind the directory above a path. -/
theorem Lies.parts_prefix {dir p q : Path} {front dropped behind : List String} {x : String}
    (lies : Lies p q front dropped x) (tidy : Tidy dir) (nonempty : dir ≠ "") (notRoot : dir ≠ "/")
    (same : dir.parts ++ behind = front ++ dropped) : dir.parts <+: front := by
  obtain ⟨kept, rfl, -⟩ | ⟨part, whole, gone⟩ := List.append_eq_append_iff.mp same
  · exact List.prefix_append _ _
  · cases last : part.getLast? with
    | none => simp [whole, List.getLast?_eq_none_iff.mp last]
    | some z =>
      obtain ⟨closed, dot⟩ := last_of_tidy tidy nonempty notRoot
      have ends : dir.parts.getLast? = some z := by rw [whole, List.getLast?_append, last, Option.some_or]
      have among : z ∈ dropped := by
        rw [gone]
        exact List.mem_append_left _ (List.mem_of_getLast? last)
      obtain rfl | rfl := lies.skipped z among
      · exact absurd ends closed
      · -- The directory is a single dot, and a path has no parts in front of that.
        have top : front = [] := by
          have size := congrArg List.length (whole.symm.trans (dot ends))
          have some : 0 < part.length := List.length_pos_of_mem (List.mem_of_getLast? last)
          rw [List.length_append, List.length_singleton] at size
          exact List.eq_nil_of_length_eq_zero (by omega)
        obtain ⟨_, parts⟩ | ⟨_, slash⟩ | ⟨_, _, none⟩ := lies.above
        · exact absurd (parts.trans top) (parts_ne_nil q)
        · cases top.symm.trans slash
        · rw [none] at among
          cases among

/-- What a path with more parts than a directory lies in begins with this directory. -/
theorem begins_parent {dir p q : Path} {rest : List String} (tidy : Tidy dir) (nonempty : dir ≠ "")
    (notRoot : dir ≠ "/") (named : Named p) (parts : p.parts = dir.parts ++ rest) (more : rest ≠ [])
    (above : parent? p = some q) : Begins dir q := by
  obtain ⟨⟨front, dropped, x, lies⟩, -⟩ := lies_of_parent? (tidy_of_named named) above
  obtain ⟨behind, y, rfl⟩ := (List.eq_nil_or_concat rest).resolve_left more
  have same : dir.parts ++ behind = front ++ dropped := by
    have whole := parts.symm.trans lies.parts
    rw [List.concat_eq_append, ← List.append_assoc] at whole
    exact (List.append_inj' whole rfl).1
  have below := lies.parts_prefix tidy nonempty notRoot same
  obtain ⟨_, parts⟩ | ⟨_, slash⟩ | ⟨_, top, _⟩ := lies.above
  · rw [← ofParts_parts dir, ← ofParts_parts q, parts]
    exact begins_ofParts (parts_ne_nil dir) below
  · rw [slash] at below
    have whole := below.eq_of_length_le (List.length_pos_iff.mpr (parts_ne_nil dir))
    exact absurd (parts_injective whole) nonempty
  · rw [top] at below
    exact absurd (List.prefix_nil.mp below) (parts_ne_nil dir)

/-- The path is that of a directory with more behind it, by its text and by its parts. -/
structure Beneath (dir p : Path) : Prop where
  text : Begins dir p
  absolute : isAbsolute p = isAbsolute dir
  parts : dir.parts.getLast? ≠ some "" → dir.parts <+: p.parts

theorem Beneath.refl (dir : Path) : Beneath dir dir := ⟨begins_refl dir, rfl, fun _ => List.prefix_rfl⟩

theorem Beneath.join {dir base more : Path} (beneath : Beneath dir base) (relative : isAbsolute more = false) :
    Beneath dir (base.join more) where
  text := beneath.text.trans (begins_join relative base)
  absolute := (isAbsolute_join relative base).trans beneath.absolute
  parts closed := by
    obtain ⟨rest, -, parts⟩ := exists_parts_join closed (beneath.parts closed) relative
    exact ⟨rest, parts.symm⟩

/-- A file that is joined to what lies beneath a directory lies in a directory that begins with this one. -/
theorem Beneath.begins_parent_join {dir base more q : Path} (beneath : Beneath dir base) (tidy : Tidy dir)
    (relative : isAbsolute more = false) (named : Named (base.join more))
    (above : parent? (base.join more) = some q) : Begins dir q := by
  by_cases nonempty : dir = ""
  · exact ⟨q, by rw [nonempty, String.empty_append]⟩
  by_cases notRoot : dir = "/"
  · obtain ⟨⟨front, dropped, x, lies⟩, -⟩ := lies_of_parent? (tidy_of_named named) above
    have absolute := lies.isAbsolute_eq.trans (beneath.join relative).absolute
    rw [notRoot, show isAbsolute "/" = true from rfl, isAbsolute, decide_eq_true_eq] at absolute
    obtain ⟨rest, chars⟩ := List.head?_eq_some_iff.mp absolute
    refine ⟨String.ofList rest, ?_⟩
    apply String.toList_inj.mp
    simp [notRoot, chars]
  · obtain ⟨closed, -⟩ := last_of_tidy tidy nonempty notRoot
    obtain ⟨rest, more, parts⟩ := exists_parts_join closed (beneath.parts closed) relative
    exact begins_parent tidy nonempty notRoot named parts more above

theorem tidy_join {name : Path} (plain : Slashless name) (relative : isAbsolute name = false) (some : name ≠ "")
    (other : name ≠ ".") (base : Path) : Tidy (base.join name) := by
  obtain ⟨front, _, _, _, parts⟩ := parts_join relative base
  rw [parts_of_slashless plain] at parts
  exact tidy_of_named ⟨front, name, parts, some, other⟩

end SlotBinding.Files.Path
