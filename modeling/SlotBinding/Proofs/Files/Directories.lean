import SlotBinding.Proofs.Files.Growth
import SlotBinding.Sink.Directory

/-!
# Directories that are made on the way to a file

`made_makeDirectories` says what comes of making a directory with those above it, whatever the path;
`attempt` is the creation of one file with its directories.
-/

namespace SlotBinding.Files

open SlotBinding.Files.Path (Tidy Lies parent?)

namespace Tree

variable {t u v : Tree} {p q : Path} {f : Fault}

/-! ### One directory after the other -/

def andThen (r : Tree × Option Fault) (next : Tree → Tree × Option Fault) : Tree × Option Fault :=
  match r with
  | (t, none) => next t
  | (t, some f) => (t, some f)

theorem makeAll_cons (t : Tree) (p : Path) (rest : List Path) :
    t.makeAll (p :: rest) = andThen (t.makeAll [p]) (·.makeAll rest) := by
  rw [makeAll, makeAll]
  cases t.makeDirectory p with
  | ok u => rfl
  | error f =>
    dsimp only
    split <;> rfl

/-- What is missing is made below the innermost directory that is there. -/
theorem makeFromInnermost_eq (t : Tree) (above missing : List Path) :
    t.makeFromInnermost above missing = andThen (t.makeFromInnermost above []) (·.makeAll missing) := by
  induction above generalizing missing with
  | nil => rfl
  | cons p rest ih =>
    rw [makeFromInnermost, makeFromInnermost]
    split
    · rfl
    · cases t.makeDirectory p with
      | ok u => rfl
      | error f =>
        cases f with
        | notFound =>
          dsimp only
          rw [ih (p :: missing), ih [p]]
          cases t.makeFromInnermost rest [] with
          | mk u answer =>
            cases answer with
            | none => exact makeAll_cons u p missing
            | some f => rfl
        | alreadyThere | notADirectory | isADirectory | nameTooLong | nulInName | notText | other =>
          dsimp only
          split <;> rfl

theorem makeAll_single (t : Tree) (p : Path) :
    t.makeAll [p] =
      match t.find p with
      | .ok (.directory _) => (t, none)
      | .ok (.file _ _) => (t, some .alreadyThere)
      | .ok (.free trail) => (t.set trail .directory, none)
      | .error f => (t, some f) := by
  rw [makeAll, makeDirectory, isDirectory]
  cases t.find p with
  | error f => simp
  | ok place => cases place <;> simp [makeAll]

theorem makeDirectories_empty (t : Tree) : t.makeDirectories "" = (t, none) := by
  rw [makeDirectories, Path.ancestors_eq (.inr (by decide +kernel)), makeFromInnermost, if_pos rfl]
  rfl

/-- A directory whose name has nowhere to stand is made in the one above it. -/
theorem makeDirectories_of_notFound (tidy : Tidy p) (some : p ≠ "") (above : parent? p = .some q)
    (gone : t.find p = .error .notFound) :
    t.makeDirectories p = andThen (t.makeDirectories q) (·.makeAll [p]) := by
  rw [makeDirectories, Path.ancestors_eq tidy, above, makeFromInnermost, if_neg some, makeDirectory, gone,
    makeDirectories]
  exact makeFromInnermost_eq t q.ancestors [p]

theorem makeDirectories_of_found (tidy : Tidy p) (some : p ≠ "") (found : t.find p ≠ .error .notFound) :
    t.makeDirectories p = t.makeAll [p] := by
  rw [makeDirectories, Path.ancestors_eq tidy, makeFromInnermost, if_neg some, makeAll_single, makeDirectory]
  cases looked : t.find p with
  | ok place => cases place <;> simp [isDirectory, makeAll, looked]
  | error f =>
    cases f with
    | notFound => exact absurd looked found
    | alreadyThere | notADirectory | isADirectory | nameTooLong | nulInName | notText | other =>
      simp [isDirectory, looked]

/-! ### What comes of it -/

/-- A directory cannot be made, whatever else is added to the tree. -/
def Refuses (t : Tree) (p : Path) (f : Fault) : Prop :=
  p ≠ "" ∧ (f ≠ .notFound ∧ t.find p = .error f ∨
    f = .alreadyThere ∧ ∃ trail c, t.find p = .ok (.file trail c))

theorem Refuses.grows (refuses : Refuses t p f) (grows : Grows t u) : Refuses u p f := by
  have keeps := find_keeps grows p
  obtain ⟨some, ⟨other, fails⟩ | ⟨there, trail, c, found⟩⟩ := refuses
  · rw [fails] at keeps
    exact ⟨some, .inl ⟨other, keeps.resolve_left other⟩⟩
  · rw [found] at keeps
    obtain ⟨c', later⟩ := keeps
    exact ⟨some, .inr ⟨there, trail, c', later⟩⟩

theorem makeDirectories_of_refuses (tidy : Tidy p) (refuses : Refuses t p f) :
    t.makeDirectories p = (t, some f) := by
  obtain ⟨some, ⟨other, fails⟩ | ⟨rfl, trail, c, found⟩⟩ := refuses
  · rw [makeDirectories_of_found tidy some (by simp [fails, other]), makeAll_single, fails]
  · rw [makeDirectories_of_found tidy some (by simp [found]), makeAll_single, found]

theorem makeDirectories_of_directory (tidy : Tidy p) {trail : Trail}
    (found : p = "" ∨ t.find p = .ok (.directory trail)) : t.makeDirectories p = (t, none) := by
  by_cases some : p = ""
  · rw [some, makeDirectories_empty]
  · have there := found.resolve_left some
    rw [makeDirectories_of_found tidy some (by simp [there]), makeAll_single, there]

/-- A path leads over something that is missing to a file, once that is made. -/
def Strays (t : Tree) (p : Path) : Prop :=
  ∃ u front, MoreDirectories t u ∧ front <+: p.parts ∧ t.walk (start p) front = .error .notFound ∧
    ∃ trail c, u.walk (start p) front = .ok (.file trail c)

/-- Directories were made on the way to a path, or making them failed for a reason that stays, unless it is
excused. Where only directories are missing nothing fails, and no others are made. -/
structure Made (t : Tree) (p : Path) (Excused : Prop) (r : Tree × Option Fault) : Prop where
  more : MoreDirectories t r.1
  size : t.entries.size ≤ r.1.entries.size
  done : r.2 = none → p = "" ∨ ∃ trail, r.1.find p = .ok (.directory trail)
  refused : ∀ f, r.2 = some f → Refuses r.1 p f ∨ Excused
  within : ∀ v trail, MoreDirectories t v → v.walk (start p) p.parts = .ok (.directory trail) →
    (p ≠ "" → Sound p) → r.2 = none ∧ MoreDirectories r.1 v

theorem sound_of_find {place : Place} (found : t.find p = .ok place) : Sound p := by
  by_contra unsound
  obtain ⟨f, _, _, fails⟩ := find_of_not_sound unsound
  rw [fails] at found
  cases found

theorem sound_of_notFound (some : p ≠ "") (gone : t.find p = .error .notFound) : Sound p := by
  by_contra unsound
  obtain ⟨f, _, empty, fails⟩ := find_of_not_sound unsound
  exact some (empty (Except.error.inj ((fails t).symm.trans gone)))

/-- A place that is made in a larger tree, too, is there or free. -/
theorem directory_or_free {ps : List String} {trail start : Trail} (more : MoreDirectories t v)
    (there : v.walk start ps = .ok (.directory trail)) :
    t.walk start ps = .ok (.directory trail) ∨ t.walk start ps = .error .notFound ∨
      t.walk start ps = .ok (.free trail) ∧ v.entry? trail = some .directory := by
  have keeps := walk_keeps more.grows start ps
  cases looked : t.walk start ps with
  | error f =>
    rw [looked, there] at keeps
    exact .inr (.inl (congrArg _ (keeps.resolve_right nofun)))
  | ok place =>
    rw [looked, there] at keeps
    cases place with
    | directory other => exact .inl (keeps ▸ rfl)
    | file other c =>
      obtain ⟨c', later⟩ := keeps
      cases later
    | free other =>
      obtain ⟨made, still⟩ := walk_of_free looked more.grows
      obtain same | ⟨_, directory⟩ := more other
      · have led := still (same.trans (none_of_free looked))
        rw [there] at led
        cases led
      · have led := made directory
        rw [there] at led
        obtain rfl : trail = other := by simpa using led
        exact .inr (.inr ⟨rfl, directory⟩)

theorem made_single (some : p ≠ "") (named : t.find p ≠ .error .notFound) :
    Made t p False (t.makeAll [p]) := by
  rw [makeAll_single]
  have within {v : Tree} {trail : Trail} (more : MoreDirectories t v)
      (there : v.walk (start p) p.parts = .ok (.directory trail)) (sound : p ≠ "" → Sound p) :
      t.find p = .ok (.directory trail) ∨
        t.find p = .ok (.free trail) ∧ v.entry? trail = .some .directory := by
    have found := find_of_sound (sound some) t
    rw [found] at named ⊢
    exact (directory_or_free more there).imp_right fun rest => rest.resolve_left named
  cases looked : t.find p with
  | error f =>
    refine ⟨.refl t, Nat.le_refl _, nofun, fun g failed => ?_, fun v trail more there sound => ?_⟩
    · obtain rfl := Option.some.inj failed
      exact .inl ⟨some, .inl ⟨fun gone => named (gone ▸ looked), looked⟩⟩
    · simpa [looked] using within more there sound
  | ok place =>
    cases place with
    | directory trail =>
      exact ⟨.refl t, Nat.le_refl _, fun _ => .inr ⟨trail, looked⟩, nofun, fun _ _ more _ _ => ⟨rfl, more⟩⟩
    | file trail c =>
      refine ⟨.refl t, Nat.le_refl _, nofun, fun g failed => ?_, fun v trail more there sound => ?_⟩
      · obtain rfl := Option.some.inj failed
        exact .inl ⟨some, .inr ⟨rfl, trail, c, looked⟩⟩
      · simpa [looked] using within more there sound
    | free trail =>
      have sound := sound_of_find looked
      have walked := (find_of_sound sound t).symm.trans looked
      have gone := none_of_free walked
      have more := moreDirectories_set gone
      refine ⟨more, size_set t trail _, fun _ => .inr ⟨trail, ?_⟩, nofun,
        fun v other above there _ => ⟨rfl, ?_⟩⟩
      · rw [find_of_sound sound]
        exact (walk_of_free walked more.grows).1 (set_self (ordinary_of_none gone) _)
      · have made : v.entry? trail = .some .directory := by
          obtain found | ⟨found, directory⟩ := within above there fun _ => sound
          · rw [looked] at found
            cases found
          · rw [looked] at found
            obtain rfl : trail = other := by simpa using found
            exact directory
        intro other
        by_cases here : other = trail
        · subst here
          exact .inl (by rw [made, set_self (ordinary_of_none gone)])
        · rw [set_of_ne here]
          exact above other

theorem walk_ne_notFound (t : Tree) (trail : Trail) (x : String) : t.walk trail [x] ≠ .error .notFound := by
  rw [walk]
  split
  · simp [walk]
  · split
    · simp [walk]
    · split
      · simp
      · dsimp only
        split <;> simp [walk]

theorem find_slash (t : Tree) : t.find "/" = .ok (.directory []) := by
  have sound : Sound "/" := ⟨by decide, by decide, by decide⟩
  rw [find_of_sound sound]
  exact walk_of_slashes (by decide +kernel) t _

/-- The parts of a directory above a path stand in front of those of the path, or lead nowhere. -/
def Under (q p : Path) : Prop :=
  start q = start p ∧ (q.parts <+: p.parts ∨ q.parts.all (· = "") = true)

theorem under_lies {front dropped : List String} {x : String} (lies : Lies p q front dropped x) : Under q p := by
  refine ⟨start_lies lies, ?_⟩
  obtain ⟨_, parts⟩ | ⟨rfl, _⟩ | ⟨rfl, _⟩ := lies.above
  · rw [parts, lies.parts, List.append_assoc]
    exact .inl (List.prefix_append _ _)
  · exact .inr (by decide +kernel)
  · exact .inr (by decide +kernel)

theorem Strays.under (under : Under q p) (strays : Strays t q) : Strays t p := by
  obtain ⟨u, front, more, ahead, gone, rest⟩ := strays
  obtain ⟨same, within | slashes⟩ := under
  · exact ⟨u, front, more, ahead.trans within, same ▸ gone, same ▸ rest⟩
  · have all : front.all (· = "") = true :=
      List.all_eq_true.mpr fun x member => List.all_eq_true.mp slashes x (ahead.subset member)
    rw [walk_of_slashes all] at gone
    cases gone

section Above

variable {front dropped : List String} {x : String} {Excused : Prop}

theorem find_lies (lies : Lies p q front dropped x) (sound : Sound p) (u : Tree) :
    u.find p = (u.walk (start p) q.parts).bind (u.onward [x]) := by
  rw [find_of_sound sound, walk_lies lies, walk_append]

theorem find_above (lies : Lies p q front dropped x) (sound : Sound p) (u : Tree) (some : q ≠ "") :
    u.find q = u.walk (start p) q.parts := by
  rw [find_of_sound (sound_lies lies sound some), start_lies lies]

theorem directory_above (lies : Lies p q front dropped x) {trail : Trail}
    (there : v.walk (start p) p.parts = .ok (.directory trail)) :
    ∃ d, v.walk (start q) q.parts = .ok (.directory d) := by
  rw [walk_lies lies] at there
  rw [start_lies lies]
  exact directory_of_append there ⟨x, List.mem_cons_self, lies.name⟩

theorem made_below (lies : Lies p q front dropped x) (sound : Sound p) (first : Made t q Excused (u, none)) :
    Made t p False (u.makeAll [p]) := by
  have led : ∃ d, u.walk (start p) q.parts = .ok (.directory d) := by
    by_cases empty : q = ""
    · rw [empty]
      exact ⟨_, walk_of_slashes (by decide +kernel) u _⟩
    · rw [← find_above lies sound u empty]
      exact (first.done rfl).resolve_left empty
  have named : u.find p ≠ .error .notFound := by
    obtain ⟨d, led⟩ := led
    rw [find_lies lies sound, led]
    exact walk_ne_notFound u d x
  have second := made_single sound.nonempty named
  refine ⟨first.more.trans second.more, Nat.le_trans first.size second.size, second.done, second.refused, ?_⟩
  intro v trail more there sound'
  obtain ⟨d, above⟩ := directory_above lies there
  exact second.within v trail (first.within v d more above (sound_lies lies sound)).2 there sound'

/-- A file stands where the directory above is to be made, and it was not there before. -/
theorem strays_of_alreadyThere (lies : Lies p q front dropped x) (tidyAbove : Tidy q) (sound : Sound p)
    (gone : t.find p = .error .notFound) (outcome : t.makeDirectories q = (u, some .alreadyThere))
    (more : MoreDirectories t u) (full : q ≠ "") {trail : Trail} {c : Content}
    (found : u.find q = .ok (.file trail c)) : Strays t q := by
  refine ⟨u, q.parts, more, List.prefix_refl _, ?_, trail, c, ?_⟩
  · rw [find_lies lies sound] at gone
    rw [start_lies lies]
    cases looked : t.walk (start p) q.parts with
    | error e =>
      rw [looked] at gone
      exact gone
    | ok place =>
      rw [looked] at gone
      cases place with
      | directory d => exact absurd gone (walk_ne_notFound t d x)
      | file => simp [Except.bind, onward] at gone
      | free d =>
        rw [← find_above lies sound t full] at looked
        rw [makeDirectories_of_found tidyAbove full (by simp [looked]), makeAll_single, looked] at outcome
        cases outcome
  · rw [start_lies lies, ← find_above lies sound u full, found]

theorem made_of_refused_above (lies : Lies p q front dropped x) (tidyAbove : Tidy q) (sound : Sound p)
    (above : parent? p = some q) (gone : t.find p = .error .notFound)
    (outcome : t.makeDirectories q = (u, some f))
    (first : Made t q (∃ r, parent? q = some r ∧ Strays t r) (u, some f)) :
    Made t p (∃ r, parent? p = some r ∧ Strays t r) (u, some f) := by
  refine ⟨first.more, first.size, by simp, fun g failed => ?_, fun v trail more there _ => ?_⟩
  · obtain rfl := Option.some.inj failed
    obtain ⟨full, ⟨other, fails⟩ | ⟨rfl, trail, c, found⟩⟩ | ⟨r, above', strays⟩ := first.refused f rfl
    · rw [find_above lies sound u full] at fails
      refine .inl ⟨sound.nonempty, .inl ⟨other, ?_⟩⟩
      rw [find_lies lies sound, fails]
      rfl
    · exact .inr ⟨q, above, strays_of_alreadyThere lies tidyAbove sound gone outcome first.more full found⟩
    · obtain ⟨⟨_, _, _, higher⟩, _⟩ := Path.lies_of_parent? tidyAbove above'
      exact .inr ⟨q, above, strays.under (under_lies higher)⟩
  · obtain ⟨d, led⟩ := directory_above lies there
    cases (first.within v d more led (sound_lies lies sound)).1

end Above

theorem Made.excused {Excused : Prop} {r : Tree × Option Fault} (made : Made t p False r) : Made t p Excused r :=
  ⟨made.more, made.size, made.done, fun f failed => (made.refused f failed).imp_right False.elim, made.within⟩

theorem made_makeDirectories (tidy : Tidy p) (t : Tree) :
    Made t p (∃ q, parent? p = some q ∧ Strays t q) (t.makeDirectories p) := by
  -- The directory above is made first, and its path is shorter.
  induction size : p.length using Nat.strongRecOn generalizing p with
  | _ n ih =>
    by_cases empty : p = ""
    · rw [empty, makeDirectories_empty]
      exact ⟨.refl t, Nat.le_refl _, fun _ => .inl rfl, by simp, fun _ _ more _ _ => ⟨rfl, more⟩⟩
    by_cases gone : t.find p = .error .notFound
    · have sound := sound_of_notFound empty gone
      have notRoot : p ≠ "/" := by
        rintro rfl
        rw [find_slash] at gone
        cases gone
      obtain ⟨q, above⟩ := Path.exists_parent? tidy empty notRoot
      obtain ⟨⟨front, dropped, x, lies⟩, tidyAbove⟩ := Path.lies_of_parent? tidy above
      have first := ih q.length (size ▸ lies.length_lt) tidyAbove rfl
      rw [makeDirectories_of_notFound tidy empty above gone]
      cases outcome : t.makeDirectories q with
      | mk u answer =>
        rw [outcome] at first
        cases answer with
        | none => exact (made_below lies sound first).excused
        | some f => exact made_of_refused_above lies tidyAbove sound above gone outcome first
    · rw [makeDirectories_of_found tidy empty gone]
      exact (made_single empty gone).excused

end Tree

end SlotBinding.Files
