import SlotBinding.Proofs.Files.Directories

/-!
# The creation of a file below a directory

`attempt` makes the directories above a path and writes a file. What it does is said for the paths that a
sink in a directory asks for, whatever the directory.
-/

namespace SlotBinding.Files

open SlotBinding.Files.Path (Tidy Lies parent?)

/-- A name that stands for itself in a path. -/
structure Ordinary (x : String) : Prop where
  nonempty : x ≠ ""
  dot : x ≠ "."
  up : x ≠ ".."

namespace Tree

variable {root p q : Path} {names : List String} {x : String} {t u v w : Tree}

/-! ### Paths below a directory -/

/-- A path consists of the parts of a directory, those at its end left out that are empty, and some names. -/
structure Beneath (root p : Path) (names : List String) : Prop where
  parts : ∃ front gap, root.parts = front ++ gap ∧ (∀ y ∈ gap, y = "") ∧ p.parts = front ++ names
  sameStart : start p = start root

theorem beneath_join {name : Path} (relative : name.isAbsolute = false) (root : Path) :
    Beneath root (root.join name) name.parts := by
  obtain ⟨front, gap, parts, empty, joined⟩ := Path.parts_join relative root
  exact ⟨⟨front, gap, parts, empty, joined⟩, by rw [start, start, Path.isAbsolute_join relative]⟩

theorem Beneath.walk (beneath : Beneath root p names) (named : ∃ y ∈ names, y ≠ "") (t : Tree)
    (trail : Trail) : t.walk trail p.parts = t.walk trail (root.parts ++ names) := by
  obtain ⟨front, gap, parts, empty, joined⟩ := beneath.parts
  rw [parts, joined, walk_skip t trail front (fun y member => .inl (empty y member)) named]

theorem Beneath.reverse (beneath : Beneath root p (names ++ [x])) :
    ∃ rest, p.parts.reverse = x :: rest := by
  obtain ⟨front, gap, _, _, joined⟩ := beneath.parts
  exact ⟨(front ++ names).reverse, by simp [joined]⟩

theorem Beneath.tidy (beneath : Beneath root p (names ++ [x])) (ordinary : Ordinary x) : Tidy p := by
  obtain ⟨rest, reversed⟩ := beneath.reverse
  refine .inr ?_
  rw [reversed]
  cases rest with
  | nil => rfl
  | cons y more => rw [Path.trimmed, if_neg (by simp [ordinary.nonempty, ordinary.dot])]; simp

theorem Beneath.nonempty (beneath : Beneath root p (names ++ [x])) (ordinary : Ordinary x) : p ≠ "" := by
  rintro rfl
  obtain ⟨rest, reversed⟩ := beneath.reverse
  have first : "" = x := by
    rw [show (Path.parts "").reverse = [""] from rfl] at reversed
    exact (List.cons.inj reversed).1
  exact ordinary.nonempty first.symm

theorem Beneath.slashedParts? (beneath : Beneath root p (names ++ [x])) (ordinary : Ordinary x) :
    p.slashedParts? = none := by
  obtain ⟨rest, reversed⟩ := beneath.reverse
  unfold Path.slashedParts?
  rw [reversed]
  split
  · rename_i last
    exact absurd (List.cons.inj last).1 ordinary.nonempty
  · rfl

section Above

variable {front dropped : List String} {y : String}

theorem Beneath.split (beneath : Beneath root p (names ++ [x])) (lies : Lies p q front dropped y) :
    y = x ∧ ∃ ahead gap,
      root.parts = ahead ++ gap ∧ (∀ z ∈ gap, z = "") ∧ front ++ dropped = ahead ++ names := by
  obtain ⟨ahead, gap, parts, empty, joined⟩ := beneath.parts
  rw [lies.parts, ← List.append_assoc] at joined
  obtain ⟨above, last⟩ := List.append_inj' joined rfl
  exact ⟨List.singleton_inj.mp last, ahead, gap, parts, empty, above⟩

theorem Beneath.above {n : String} (beneath : Beneath root p (names ++ [n] ++ [x])) (ordinary : Ordinary n)
    (lies : Lies p q front dropped y) : Beneath root q (names ++ [n]) := by
  obtain ⟨_, ahead, gap, parts, empty, above⟩ := beneath.split lies
  have same : start q = start root := (start_lies lies).trans beneath.sameStart
  -- The name in front of the last one is not left out.
  have none : dropped = [] := by
    rcases List.eq_nil_or_concat dropped with rfl | ⟨rest, z, rfl⟩
    · rfl
    · rw [List.concat_eq_append, ← List.append_assoc, ← List.append_assoc] at above
      obtain ⟨_, last⟩ := List.append_inj' above rfl
      obtain rfl := List.singleton_inj.mp last
      rcases lies.skipped z (by simp) with blank | dot
      · exact absurd blank ordinary.nonempty
      · exact absurd dot ordinary.dot
  rw [none, List.append_nil] at above
  refine ⟨⟨ahead, gap, parts, empty, ?_⟩, same⟩
  obtain ⟨_, whole⟩ | ⟨_, slash⟩ | ⟨_, nothing, _⟩ := lies.above
  · rw [whole, above]
  · rw [slash, ← List.append_assoc] at above
    have last := congrArg List.getLast? above
    rw [List.getLast?_concat] at last
    exact absurd (Option.some.inj last).symm ordinary.nonempty
  · rw [nothing] at above
    simp at above

theorem Beneath.under (beneath : Beneath root p [x]) (lies : Lies p q front dropped y) : Under q root := by
  obtain ⟨_, ahead, gap, parts, _, above⟩ := Beneath.split (show Beneath root p ([] ++ [x]) from beneath) lies
  rw [List.append_nil] at above
  refine ⟨(start_lies lies).trans beneath.sameStart, ?_⟩
  obtain ⟨_, whole⟩ | ⟨rfl, _⟩ | ⟨rfl, _⟩ := lies.above
  · rw [whole, parts, ← above, List.append_assoc]
    exact .inl (List.prefix_append _ _)
  · exact .inr (by decide +kernel)
  · exact .inr (by decide +kernel)

/-- Parts that lead nowhere can be left out behind a directory. -/
theorem walk_skipped (t : Tree) (trail : Trail) (front : List String) {skipped : List String}
    (skip : ∀ z ∈ skipped, z = "" ∨ z = ".") (d : Trail) :
    t.walk trail (front ++ skipped) = .ok (.directory d) ↔ t.walk trail front = .ok (.directory d) := by
  have stays (d : Trail) : t.walk d skipped = .ok (.directory d) := by
    induction skipped with
    | nil => rfl
    | cons z rest ih =>
      rw [Tree.walk, if_pos (by simpa using skip z List.mem_cons_self)]
      exact ih fun z member => skip z (List.mem_cons_of_mem _ member)
  rw [walk_append]
  cases t.walk trail front with
  | error f => simp [Except.bind]
  | ok place =>
    cases place with
    | directory e => simp [Except.bind, onward, stays]
    | file e c =>
      simp only [Except.bind, onward]
      split <;> simp
    | free e =>
      simp only [Except.bind, onward]
      split <;> simp

theorem Beneath.directory (beneath : Beneath root p [x]) (lies : Lies p q front dropped y) (t : Tree)
    (trail d : Trail) :
    t.walk trail q.parts = .ok (.directory d) ↔ t.walk trail root.parts = .ok (.directory d) := by
  obtain ⟨_, ahead, gap, parts, empty, above⟩ := Beneath.split (show Beneath root p ([] ++ [x]) from beneath) lies
  rw [List.append_nil] at above
  have skip : ∀ z ∈ dropped ++ gap, z = "" ∨ z = "." := by
    intro z member
    rcases List.mem_append.mp member with inner | outer
    · exact lies.skipped z inner
    · exact .inl (empty z outer)
  have same : t.walk trail q.parts = t.walk trail front := by
    obtain ⟨_, whole⟩ | ⟨rfl, rfl⟩ | ⟨rfl, rfl, _⟩ := lies.above
    · rw [whole]
    · exact (walk_of_slashes (by decide +kernel) t trail).trans (walk_of_slashes rfl t trail).symm
    · exact (walk_of_slashes (by decide +kernel) t trail).trans (walk_of_slashes rfl t trail).symm
  rw [parts, ← above, List.append_assoc, walk_skipped t trail front skip, same]

end Above

/-- A path that a sink writes to: a name in a directory, which is `root` or lies directly below it. -/
structure Target (root p q : Path) (names : List String) (x : String) : Prop where
  beneath : Beneath root p (names ++ [x])
  ordinary : Ordinary x
  lies : ∃ front dropped, Lies p q front dropped x
  above : parent? p = some q
  tidyAbove : Tidy q
  directory : ∀ (t : Tree) (trail d : Trail), t.walk trail q.parts = .ok (.directory d) ↔
    t.walk trail (root.parts ++ names) = .ok (.directory d)
  strays : ∀ t : Tree, (∃ r, parent? q = some r ∧ Strays t r) → Strays t root

theorem exists_lies (beneath : Beneath root p (names ++ [x])) (ordinary : Ordinary x) :
    ∃ q, parent? p = some q ∧ Tidy q ∧ ∃ front dropped, Lies p q front dropped x := by
  have tidy := beneath.tidy ordinary
  have notRoot : p ≠ "/" := by
    rintro rfl
    obtain ⟨rest, reversed⟩ := beneath.reverse
    rw [show (Path.parts "/").reverse = ["", ""] from rfl] at reversed
    exact ordinary.nonempty (List.cons.inj reversed).1.symm
  obtain ⟨q, above⟩ := Path.exists_parent? tidy (beneath.nonempty ordinary) notRoot
  obtain ⟨⟨front, dropped, y, lies⟩, tidyAbove⟩ := Path.lies_of_parent? tidy above
  obtain ⟨rfl, _⟩ := beneath.split lies
  exact ⟨q, above, tidyAbove, front, dropped, lies⟩

theorem target_single {name : Path} (relative : name.isAbsolute = false) (parts : name.parts = [x])
    (ordinary : Ordinary x) (root : Path) : ∃ q, Target root (root.join name) q [] x := by
  have beneath : Beneath root (root.join name) ([] ++ [x]) := by
    have joined := beneath_join relative root
    rwa [parts] at joined
  obtain ⟨q, above, tidyAbove, front, dropped, lies⟩ := exists_lies beneath ordinary
  refine ⟨q, beneath, ordinary, ⟨front, dropped, lies⟩, above, tidyAbove, fun t trail d => ?_, ?_⟩
  · rw [List.append_nil]
    exact beneath.directory lies t trail d
  · rintro t ⟨r, higher, strays⟩
    obtain ⟨⟨_, _, _, liesAbove⟩, _⟩ := Path.lies_of_parent? tidyAbove higher
    exact (strays.under (under_lies liesAbove)).under (beneath.under lies)

theorem target_pair {name : Path} {n : String} (relative : name.isAbsolute = false)
    (parts : name.parts = [n, x]) (ordinaryAbove : Ordinary n) (ordinary : Ordinary x) (root : Path) :
    ∃ q, Target root (root.join name) q [n] x := by
  have beneath : Beneath root (root.join name) ([n] ++ [x]) := by
    have joined := beneath_join relative root
    rwa [parts] at joined
  obtain ⟨q, above, tidyAbove, front, dropped, lies⟩ := exists_lies beneath ordinary
  have beneathAbove : Beneath root q [n] :=
    Beneath.above (show Beneath root (root.join name) ([] ++ [n] ++ [x]) from beneath) ordinaryAbove lies
  refine ⟨q, beneath, ordinary, ⟨front, dropped, lies⟩, above, tidyAbove, fun t trail d => ?_, ?_⟩
  · rw [beneathAbove.walk ⟨n, List.mem_cons_self, ordinaryAbove.nonempty⟩]
  · rintro t ⟨r, higher, strays⟩
    obtain ⟨⟨_, _, _, liesAbove⟩, _⟩ := Path.lies_of_parent? tidyAbove higher
    exact strays.under (beneathAbove.under liesAbove)

/-! ### Writing a file -/

def put (t : Tree) (p : Path) (text : String) : Tree × Option Fault :=
  match t.write p text with
  | .ok u => (u, none)
  | .error f => (t, some f)

theorem walk_ordinary (ordinary : Ordinary x) (short : x.utf8ByteSize ≤ longestName) (t : Tree) (d : Trail) :
    t.walk d [x] =
      match t.entry? (d ++ [x]) with
      | some .directory => .ok (.directory (d ++ [x]))
      | some (.file c) => .ok (.file (d ++ [x]) c)
      | none => .ok (.free (d ++ [x])) := by
  rw [Tree.walk, if_neg (by simp [ordinary.nonempty, ordinary.dot]), if_neg ordinary.up, if_neg (by omega)]
  dsimp only
  cases t.entry? (d ++ [x]) with
  | none => rfl
  | some e => cases e <;> rfl

theorem walk_long (ordinary : Ordinary x) (long : longestName < x.utf8ByteSize) (t : Tree) (d : Trail) :
    t.walk d [x] = .error .nameTooLong := by
  rw [Tree.walk, if_neg (by simp [ordinary.nonempty, ordinary.dot]), if_neg ordinary.up, if_pos long]

variable {text : String} {d : Trail} {f : Fault}

namespace Target

variable (target : Target root p q names x)
include target

theorem find_eq (sound : Sound p) (led : t.walk (start root) (root.parts ++ names) = .ok (.directory d)) :
    t.find p = t.walk d [x] := by
  obtain ⟨front, dropped, lies⟩ := target.lies
  have above := (target.directory t (start root) d).mpr led
  rw [find_of_sound sound, target.beneath.sameStart, walk_lies lies, walk_append, above]
  rfl

theorem write_eq (t : Tree) (text : String) :
    t.write p text =
      match t.find p with
      | .error f => .error f
      | .ok (.directory _) => .error .isADirectory
      | .ok (.free trail) | .ok (.file trail _) => .ok (t.set trail (.file (.text text))) := by
  rw [write, findForWriting, target.beneath.slashedParts? target.ordinary]
  rfl

/-- What comes of writing a file into a directory that is there: a fault that stays, or the file. -/
theorem put_cases (led : t.walk (start root) (root.parts ++ names) = .ok (.directory d)) (text : String) :
    (∃ f, ∀ w, Grows t w → put w p text = (w, some f)) ∨
      Sound p ∧ x.utf8ByteSize ≤ longestName ∧ t.entry? (d ++ [x]) ≠ some .directory ∧
        put t p text = (t.set (d ++ [x]) (.file (.text text)), none) := by
  by_cases sound : Sound p
  · have find {w : Tree} (grows : Grows t w) : w.find p = w.walk d [x] := by
      exact target.find_eq sound (directory_of_grows led grows)
    by_cases short : x.utf8ByteSize ≤ longestName
    · by_cases blocked : t.entry? (d ++ [x]) = some .directory
      · refine .inl ⟨.isADirectory, fun w grows => ?_⟩
        rw [put, target.write_eq, find grows, walk_ordinary target.ordinary short, grows.directory _ blocked]
      · refine .inr ⟨sound, short, blocked, ?_⟩
        rw [put, target.write_eq, find (.refl t), walk_ordinary target.ordinary short]
        cases there : t.entry? (d ++ [x]) with
        | none => rfl
        | some e =>
          cases e with
          | directory => exact absurd there blocked
          | file => rfl
    · refine .inl ⟨.nameTooLong, fun w grows => ?_⟩
      rw [put, target.write_eq, find grows, walk_long target.ordinary (by omega)]
  · obtain ⟨f, _, _, fails⟩ := find_of_not_sound sound
    refine .inl ⟨f, fun w _ => ?_⟩
    rw [put, target.write_eq, fails]

end Target

/-! ### The whole creation -/

/-- Makes the directories above a path and writes a file. -/
def attempt (t : Tree) (p : Path) (text : String) : Tree × Option Fault :=
  andThen (DirectorySink.withParents t p) (put · p text)

namespace Target

variable (target : Target root p q names x)
include target

theorem attempt_eq (t : Tree) (text : String) :
    attempt t p text = andThen (t.makeDirectories q) (put · p text) := by
  rw [attempt, DirectorySink.withParents, target.above]

theorem start_above : start q = start root := by
  obtain ⟨front, dropped, lies⟩ := target.lies
  exact (start_lies lies).trans target.beneath.sameStart

theorem led_of_done (done : q = "" ∨ ∃ d, t.find q = .ok (.directory d)) :
    ∃ d, t.walk (start root) (root.parts ++ names) = .ok (.directory d) := by
  obtain empty | ⟨d, found⟩ := done
  · refine ⟨start root, (target.directory t _ _).mp ?_⟩
    rw [empty]
    exact walk_of_slashes (by decide +kernel) t _
  · refine ⟨d, (target.directory t _ _).mp ?_⟩
    rw [← target.start_above, ← find_of_sound (sound_of_find found), found]

theorem makeDirectories_of_led (sound : q ≠ "" → Sound q)
    (led : t.walk (start root) (root.parts ++ names) = .ok (.directory d)) :
    t.makeDirectories q = (t, none) := by
  have above := (target.directory t (start root) d).mpr led
  have there : q = "" ∨ t.find q = .ok (.directory d) := by
    by_cases empty : q = ""
    · exact .inl empty
    · right
      rw [find_of_sound (sound empty), target.start_above, above]
  exact makeDirectories_of_directory target.tidyAbove there

theorem sound_above (sound : Sound p) (nonempty : q ≠ "") : Sound q := by
  obtain ⟨front, dropped, lies⟩ := target.lies
  exact sound_lies lies sound nonempty

/-- A file is created, or it fails for a reason that stays, unless the directory leads over something that is
missing to a file. -/
theorem attempt_cases (t : Tree) (text : String) :
    (∃ u f, MoreDirectories t u ∧ t.entries.size ≤ u.entries.size ∧ attempt t p text = (u, some f) ∧
      (Strays t root ∨ ∀ w, Grows u w → attempt w p text = (w, some f))) ∨
    ∃ u d, MoreDirectories t u ∧ t.entries.size ≤ u.entries.size ∧
      u.walk (start root) (root.parts ++ names) = .ok (.directory d) ∧ Sound p ∧
      x.utf8ByteSize ≤ longestName ∧ u.entry? (d ++ [x]) ≠ some .directory ∧
      attempt t p text = (u.set (d ++ [x]) (.file (.text text)), none) := by
  have made := made_makeDirectories target.tidyAbove t
  rw [target.attempt_eq]
  cases outcome : t.makeDirectories q with
  | mk u answer =>
    rw [outcome] at made
    cases answer with
    | some f =>
      refine .inl ⟨u, f, made.more, made.size, rfl, ?_⟩
      obtain refuses | excused := made.refused f rfl
      · refine .inr fun w grows => ?_
        rw [target.attempt_eq, makeDirectories_of_refuses target.tidyAbove (refuses.grows grows)]
        rfl
      · exact .inl (target.strays t excused)
    | none =>
      have done := made.done rfl
      obtain ⟨d, led⟩ := target.led_of_done done
      obtain ⟨f, stays⟩ | ⟨sound, short, free, written⟩ := target.put_cases led text
      · refine .inl ⟨u, f, made.more, made.size, stays u (.refl u), .inr fun w grows => ?_⟩
        have later : w.makeDirectories q = (w, none) := by
          by_cases empty : q = ""
          · rw [empty, makeDirectories_empty]
          · obtain ⟨e, found⟩ := done.resolve_left empty
            have keeps := find_keeps grows q
            rw [found] at keeps
            exact makeDirectories_of_directory target.tidyAbove (.inr keeps)
        rw [target.attempt_eq, later]
        exact stays w grows
      · exact .inr ⟨u, d, made.more, made.size, led, sound, short, free, written⟩

/-- Nothing is created at a path that cannot be followed. -/
theorem attempt_of_not_sound (unsound : ¬Sound p) (t : Tree) (text : String) : (attempt t p text).2 ≠ none := by
  obtain ⟨f, _, _, fails⟩ := find_of_not_sound unsound
  rw [target.attempt_eq]
  cases t.makeDirectories q with
  | mk u answer =>
    cases answer with
    | some g => exact nofun
    | none =>
      show (put u p text).2 ≠ none
      rw [put, target.write_eq, fails]
      exact nofun

theorem attempt_again (sound : Sound p) (short : x.utf8ByteSize ≤ longestName)
    (led : t.walk (start root) (root.parts ++ names) = .ok (.directory d))
    (held : t.entry? (d ++ [x]) = some (.file (.text text))) : attempt t p text = (t, none) := by
  rw [target.attempt_eq, target.makeDirectories_of_led (target.sound_above sound) led]
  show put t p text = _
  rw [put, target.write_eq, target.find_eq sound led, walk_ordinary target.ordinary short, held]
  have ordinary := ordinary_of_file held
  have same : t.entries.insert (d ++ [x]) (.file (.text text)) = t.entries := by
    refine InsertionMap.insert_of_get? ?_
    rwa [ entry?, if_neg (by simpa using ordinary)] at held
  simp only [set, same]

/-- Where only directories are missing on the way to a free name, a file is created there. -/
theorem attempt_within (sound : Sound p) (short : x.utf8ByteSize ≤ longestName) (more : MoreDirectories t v)
    (led : v.walk (start root) (root.parts ++ names) = .ok (.directory d))
    (free : v.entry? (d ++ [x]) = none) (text : String) :
    ∃ u, MoreDirectories t u ∧ MoreDirectories u v ∧
      u.walk (start root) (root.parts ++ names) = .ok (.directory d) ∧
      attempt t p text = (u.set (d ++ [x]) (.file (.text text)), none) := by
  have made := made_makeDirectories target.tidyAbove t
  have above := (target.directory v (start root) d).mpr led
  rw [← target.start_above] at above
  obtain ⟨nothing, below⟩ := made.within v d more above (target.sound_above sound)
  rw [target.attempt_eq]
  cases outcome : t.makeDirectories q with
  | mk u answer =>
    rw [outcome] at made nothing below
    obtain rfl : answer = none := nothing
    obtain ⟨e, found⟩ := target.led_of_done (made.done rfl)
    have same := directory_of_grows found (MoreDirectories.grows below)
    rw [led] at same
    obtain rfl : d = e := by simpa using same
    have gone : u.entry? (d ++ [x]) = none := by
      obtain same | ⟨gone, _⟩ := below (d ++ [x])
      · rw [← same, free]
      · exact gone
    refine ⟨u, made.more, below, found, ?_⟩
    show put u p text = _
    rw [put, target.write_eq, target.find_eq sound found, walk_ordinary target.ordinary short, gone]

end Target

end Tree

end SlotBinding.Files

namespace SlotBinding.DirectorySink

open Files (Tree)

/-- A creation in a sink is one in its tree, for a name that was not created before. -/
theorem create_eq (s : DirectorySink) (name text : String) :
    s.create name text =
      if s.created.contains name then (s, some (.alreadyExists name))
      else
        match Tree.attempt s.tree (s.root.join name) text with
        | (t, none) => ({ s with tree := t, created := name :: s.created }, none)
        | (t, some f) => ({ s with tree := t }, some (.io name f)) := by
  rw [create]
  split
  · rfl
  · rw [Tree.attempt]
    dsimp only
    cases withParents s.tree (s.root.join name) with
    | mk t answer =>
      cases answer with
      | some f => rfl
      | none =>
        simp only [Tree.andThen, Tree.put]
        cases t.write (s.root.join name) text <;> rfl

theorem answer_create {s : DirectorySink} {name : String} (fresh : name ∉ s.created) (text : String) :
    (s.create name text).2 = (Tree.attempt s.tree (s.root.join name) text).2.map (.io name) := by
  rw [create_eq, if_neg fun taken => fresh (List.contains_iff_mem.mp taken)]
  cases Tree.attempt s.tree (s.root.join name) text with
  | mk t answer => cases answer <;> rfl

end SlotBinding.DirectorySink
