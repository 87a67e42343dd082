import SlotBinding.Files.Tree
import SlotBinding.Proofs.Collection.InsertionMap
import SlotBinding.Proofs.Files.Paths

/-!
# Trees that grow

Where a path leads, step by step, and what of it stays when directories and files are added to a tree.
-/

namespace SlotBinding.Files.Tree

variable {t u v : Tree} {trail : Trail}

/-! ### Steps of a path -/

def onward (t : Tree) (rest : List String) : Place → Except Fault Place
  | .directory trail => t.walk trail rest
  | .file trail content => if rest = [] then .ok (.file trail content) else .error .notADirectory
  | .free trail => if rest.all (· = "") then .ok (.free trail) else .error .notFound

theorem walk_append (t : Tree) (trail : Trail) (front back : List String) :
    t.walk trail (front ++ back) = (t.walk trail front).bind (t.onward back) := by
  induction front generalizing trail with
  | nil => rfl
  | cons p rest ih =>
    rw [List.cons_append, walk, walk]
    split
    · exact ih trail
    · split
      · exact ih trail.dropLast
      · split
        · rfl
        · dsimp only
          split
          · exact ih (trail ++ [p])
          · by_cases last : rest = []
            · subst last
              simp [Except.bind, onward]
            · simp [last, Except.bind]
          · by_cases slashes : rest.all (· = "") = true
            · simp [slashes, Except.bind, onward]
            · simp [slashes, Except.bind]

/-- A path does not lead to a directory but through directories. -/
theorem directory_of_append {ps qs : List String} {d : Trail}
    (leads : t.walk trail (ps ++ qs) = .ok (.directory d)) (named : ∃ x ∈ qs, x ≠ "") :
    ∃ e, t.walk trail ps = .ok (.directory e) := by
  obtain ⟨x, member, name⟩ := named
  rw [walk_append] at leads
  cases front : t.walk trail ps with
  | error f =>
    rw [front] at leads
    cases leads
  | ok place =>
    rw [front] at leads
    cases place with
    | directory e => exact ⟨e, rfl⟩
    | file e c =>
      have some : qs ≠ [] := List.ne_nil_of_mem member
      simp [Except.bind, onward, some] at leads
    | free e =>
      have full : ¬qs.all (· = "") = true := fun all => name (by simpa using List.all_eq_true.mp all x member)
      simp [Except.bind, onward, full] at leads

/-- A part of a path to a file leads onward, or it is the name of the file and the last part. -/
theorem file_cons {d e : Trail} {p : String} {rest : List String} {c : Content}
    (found : t.walk d (p :: rest) = .ok (.file e c)) :
    (∃ d', t.walk d' rest = .ok (.file e c)) ∨
      rest = [] ∧ p ≠ "" ∧ p ≠ "." ∧ t.entry? e = some (.file c) := by
  rw [walk] at found
  split at found
  · exact .inl ⟨d, found⟩
  · rename_i named
    split at found
    · exact .inl ⟨d.dropLast, found⟩
    · split at found
      · cases found
      · dsimp only at found
        split at found
        · exact .inl ⟨d ++ [p], found⟩
        · rename_i held there
          split at found
          · rename_i last
            obtain ⟨rfl, rfl⟩ : d ++ [p] = e ∧ held = c := by simpa using found
            simp only [Bool.or_eq_true, decide_eq_true_eq, not_or] at named
            exact .inr ⟨last, named.1, named.2, there⟩
          · cases found
        · split at found <;> cases found

theorem file_of_walk {ps : List String} {e : Trail} {c : Content} (found : t.walk trail ps = .ok (.file e c)) :
    t.entry? e = some (.file c) := by
  induction ps generalizing trail with
  | nil => cases found
  | cons p rest ih =>
    obtain ⟨d, onward⟩ | ⟨-, -, -, there⟩ := file_cons found
    · exact ih onward
    · exact there

theorem last_of_walk {ps : List String} {e : Trail} {c : Content} (found : t.walk trail ps = .ok (.file e c)) :
    ∃ front x, ps = front ++ [x] ∧ x ≠ "" ∧ x ≠ "." := by
  induction ps generalizing trail with
  | nil => cases found
  | cons p rest ih =>
    obtain ⟨d, onward⟩ | ⟨rfl, name, other, -⟩ := file_cons found
    · obtain ⟨front, x, rfl, last⟩ := ih onward
      exact ⟨p :: front, x, rfl, last⟩
    · exact ⟨[], p, rfl, name, other⟩

theorem walk_empty_cons (t : Tree) (trail : Trail) (ps : List String) :
    t.walk trail ("" :: ps) = t.walk trail ps := by
  simp [walk]

/-- Parts that lead nowhere can be left out in front of a name. -/
theorem walk_skip (t : Tree) (trail : Trail) (front : List String) {gap back : List String}
    (skip : ∀ x ∈ gap, x = "" ∨ x = ".") (named : ∃ x ∈ back, x ≠ "") :
    t.walk trail (front ++ gap ++ back) = t.walk trail (front ++ back) := by
  obtain ⟨x, member, name⟩ := named
  have some : back ≠ [] := List.ne_nil_of_mem member
  have full (ps : List String) : (ps ++ back).all (· = "") = false := by
    rw [List.all_append, Bool.and_eq_false_iff]
    exact .inr (List.all_eq_false.mpr ⟨x, member, by simpa using name⟩)
  have skipped (d : Trail) : t.walk d (gap ++ back) = t.walk d back := by
    induction gap with
    | nil => rfl
    | cons y rest ih =>
      have first : y = "" ∨ y = "." := skip y List.mem_cons_self
      rw [List.cons_append, walk, if_pos (by simpa using first)]
      exact ih fun z later => skip z (List.mem_cons_of_mem _ later)
  rw [List.append_assoc, walk_append, walk_append]
  congr 1
  funext place
  cases place with
  | directory d => exact skipped d
  | file => simp [onward, some]
  | free =>
    have plain := full []
    rw [List.nil_append] at plain
    simp only [onward, full gap, plain]

theorem walk_lies {p q : Path} {front dropped : List String} {x : String}
    (lies : Path.Lies p q front dropped x) (t : Tree) (trail : Trail) :
    t.walk trail p.parts = t.walk trail (q.parts ++ [x]) := by
  rw [lies.parts, walk_skip t trail front lies.skipped ⟨x, List.mem_cons_self, lies.name⟩]
  obtain ⟨_, parts⟩ | ⟨rfl, rfl⟩ | ⟨rfl, rfl, rfl⟩ := lies.above
  · rw [parts]
  · show t.walk trail ("" :: [x]) = t.walk trail ("" :: "" :: [x])
    rw [walk_empty_cons, walk_empty_cons, walk_empty_cons]
  · show t.walk trail [x] = t.walk trail ("" :: [x])
    rw [walk_empty_cons]

def start (p : Path) : Trail := if p.isAbsolute then [] else working

/-- A path that can be followed at all. -/
structure Sound (p : Path) : Prop where
  noNul : '\x00' ∉ p.toList
  nonempty : p ≠ ""
  short : p.utf8ByteSize ≤ longestPath

theorem follow_of_sound {p : Path} (sound : Sound p) (t : Tree) (parts : List String) :
    t.follow p parts = t.walk (start p) parts := by
  unfold follow
  rw [if_neg (by simpa using sound.noNul), if_neg sound.nonempty, if_neg (by have := sound.short; omega)]
  rfl

theorem find_of_sound {p : Path} (sound : Sound p) (t : Tree) : t.find p = t.walk (start p) p.parts :=
  follow_of_sound sound t p.parts

/-- A path that cannot be followed gives the same fault in all trees. -/
theorem find_of_not_sound {p : Path} (unsound : ¬Sound p) :
    ∃ f, (p = "" → f = .notFound) ∧ (f = .notFound → p = "") ∧ ∀ t : Tree, t.find p = .error f := by
  unfold find follow
  by_cases nul : '\x00' ∈ p.toList
  · refine ⟨.nulInName, ?_, by simp, fun t => if_pos (by simpa using nul)⟩
    rintro rfl
    cases nul
  · by_cases empty : p = ""
    · refine ⟨.notFound, fun _ => rfl, fun _ => empty, fun t => ?_⟩
      rw [if_neg (by simpa using nul), if_pos empty]
    · have long : longestPath < p.utf8ByteSize := by
        by_contra short
        exact unsound ⟨nul, empty, by omega⟩
      refine ⟨.nameTooLong, fun h => absurd h empty, by simp, fun t => ?_⟩
      rw [if_neg (by simpa using nul), if_neg empty, if_pos long]

theorem find_of_read {p : Path} {text : String} (read : t.read p = .ok text) :
    ∃ trail, t.find p = .ok (.file trail (.text text)) := by
  unfold Tree.read at read
  split at read
  case h_5 trail value found =>
    obtain rfl := Except.ok.inj read
    exact ⟨trail, found⟩
  all_goals cases read

/-- A path that can be read has the name of a file, and a file of the tree holds its text. -/
theorem of_read {p : Path} {text : String} (read : t.read p = .ok text) :
    Path.Named p ∧ Sound p ∧ ∃ trail, t.entry? trail = some (.file (.text text)) := by
  obtain ⟨trail, found⟩ := find_of_read read
  have sound : Sound p := by
    by_contra unsound
    obtain ⟨f, -, -, fault⟩ := find_of_not_sound unsound
    cases (fault t).symm.trans found
  rw [find_of_sound sound] at found
  exact ⟨last_of_walk found, sound, trail, file_of_walk found⟩

theorem start_lies {p q : Path} {front dropped : List String} {x : String}
    (lies : Path.Lies p q front dropped x) : start q = start p := by
  rw [start, start, lies.isAbsolute_eq]

theorem sound_lies {p q : Path} {front dropped : List String} {x : String}
    (lies : Path.Lies p q front dropped x) (sound : Sound p) (some : q ≠ "") : Sound q :=
  ⟨fun nul => sound.noNul (lies.mem_of_mem nul), some, Nat.le_trans lies.utf8ByteSize_le sound.short⟩

/-- What is no directory stands neither at the root nor in the place of the working directory. -/
theorem ordinary_of_ne (other : t.entry? trail ≠ some .directory) : ¬(trail = [] ∨ trail = working) := by
  intro always
  exact other (by rw [ entry?, if_pos (by simpa using always)])

theorem ordinary_of_none (gone : t.entry? trail = none) : ¬(trail = [] ∨ trail = working) :=
  ordinary_of_ne (t := t) (by simp [gone])

theorem ordinary_of_file {c : Content} (file : t.entry? trail = some (.file c)) :
    ¬(trail = [] ∨ trail = working) :=
  ordinary_of_ne (t := t) (by simp [file])

theorem set_self (ordinary : ¬(trail = [] ∨ trail = working)) (e : Entry) :
    Tree.entry? (t.set trail e) trail = some e := by
  simp [ entry?, set, ordinary]

theorem set_of_ne {other : Trail} (apart : other ≠ trail) (e : Entry) :
    Tree.entry? (t.set trail e) other = t.entry? other := by
  simp only [ entry?, set, InsertionMap.get?_insert_of_ne _ apart]

theorem size_set (t : Tree) (trail : Trail) (e : Entry) : t.entries.size ≤ (t.set trail e).entries.size := by
  show _ ≤ (t.entries.insert trail e).size
  rw [InsertionMap.size_insert]
  split <;> omega

/-! ### Growth -/

/-- Directories are added to a tree and nothing else is changed. -/
def MoreDirectories (t u : Tree) : Prop :=
  ∀ trail, u.entry? trail = t.entry? trail ∨ t.entry? trail = none ∧ u.entry? trail = some .directory

/-- Whatever there is in a tree stays what it is; a file may get other content. -/
structure Grows (t u : Tree) : Prop where
  directory : ∀ trail, t.entry? trail = some .directory → u.entry? trail = some .directory
  file : ∀ trail c, t.entry? trail = some (.file c) → ∃ c', u.entry? trail = some (.file c')

theorem MoreDirectories.refl (t : Tree) : MoreDirectories t t := fun _ => .inl rfl

theorem MoreDirectories.trans (first : MoreDirectories t u) (second : MoreDirectories u v) :
    MoreDirectories t v := by
  intro trail
  obtain same | ⟨gone, made⟩ := second trail
  · rw [same]
    exact first trail
  · obtain same | ⟨_, directory⟩ := first trail
    · exact .inr ⟨same ▸ gone, made⟩
    · rw [directory] at gone
      cases gone

theorem MoreDirectories.file_iff (more : MoreDirectories t u) (trail : Trail) (c : Content) :
    u.entry? trail = some (.file c) ↔ t.entry? trail = some (.file c) := by
  obtain same | ⟨gone, made⟩ := more trail
  · rw [same]
  · simp [gone, made]

theorem Grows.refl (t : Tree) : Grows t t := ⟨fun _ h => h, fun _ c h => ⟨c, h⟩⟩

theorem Grows.trans (first : Grows t u) (second : Grows u v) : Grows t v := by
  refine ⟨fun trail there => second.directory trail (first.directory trail there), fun trail c there => ?_⟩
  obtain ⟨c', later⟩ := first.file trail c there
  exact second.file trail c' later

theorem MoreDirectories.grows (more : MoreDirectories t u) : Grows t u := by
  refine ⟨fun trail there => ?_, fun trail c there => ⟨c, (more.file_iff trail c).mpr there⟩⟩
  obtain same | ⟨_, made⟩ := more trail
  · rw [same, there]
  · exact made

theorem moreDirectories_set (gone : t.entry? trail = none) : MoreDirectories t (t.set trail .directory) := by
  intro other
  by_cases here : other = trail
  · subst here
    exact .inr ⟨gone, set_self (ordinary_of_none gone) _⟩
  · exact .inl (set_of_ne here _)

theorem MoreDirectories.set (more : MoreDirectories t u) (trail : Trail) (e : Entry) :
    MoreDirectories (t.set trail e) (u.set trail e) := by
  intro other
  by_cases here : other = trail
  · subst here
    simp [ entry?, Tree.set]
  · rw [set_of_ne here, set_of_ne here]
    exact more other

theorem grows_set_file (ordinary : ¬(trail = [] ∨ trail = working))
    (free : t.entry? trail ≠ some .directory) (c : Content) : Grows t (t.set trail (.file c)) := by
  refine ⟨fun other there => ?_, fun other c' there => ?_⟩
  · have apart : other ≠ trail := fun here => free (here ▸ there)
    rw [set_of_ne apart, there]
  · by_cases here : other = trail
    · subst here
      exact ⟨c, set_self ordinary _⟩
    · exact ⟨c', by rw [set_of_ne here, there]⟩

/-! ### Where paths lead in a tree that grows -/

/-- An outcome is kept if it does not depend on something that is missing. -/
def Keeps : Except Fault Place → Except Fault Place → Prop
  | .ok (.directory trail), o => o = .ok (.directory trail)
  | .ok (.file trail _), o => ∃ c, o = .ok (.file trail c)
  | .ok (.free _), _ => True
  | .error f, o => f = .notFound ∨ o = .error f

theorem walk_keeps (grows : Grows t u) (trail : Trail) (ps : List String) :
    Keeps (t.walk trail ps) (u.walk trail ps) := by
  induction ps generalizing trail with
  | nil => rfl
  | cons p rest ih =>
    rw [walk, walk]
    split
    · exact ih trail
    · split
      · exact ih trail.dropLast
      · split
        · exact .inr rfl
        · dsimp only
          cases there : t.entry? (trail ++ [p]) with
          | none =>
            dsimp only
            split
            · trivial
            · exact .inl rfl
          | some e =>
            cases e with
            | directory =>
              rw [grows.directory _ there]
              exact ih (trail ++ [p])
            | file c =>
              obtain ⟨c', later⟩ := grows.file _ c there
              rw [later]
              dsimp only
              split
              · exact ⟨c', rfl⟩
              · exact .inr rfl

theorem directory_of_grows {ps : List String} {start : Trail} (leads : t.walk start ps = .ok (.directory trail))
    (grows : Grows t u) : u.walk start ps = .ok (.directory trail) := by
  have keeps := walk_keeps grows start ps
  rw [leads] at keeps
  exact keeps

theorem find_keeps (grows : Grows t u) (p : Path) : Keeps (t.find p) (u.find p) := by
  by_cases sound : Sound p
  · rw [find_of_sound sound, find_of_sound sound]
    exact walk_keeps grows _ _
  · obtain ⟨f, _, _, fails⟩ := find_of_not_sound sound
    rw [fails, fails]
    exact .inr rfl

theorem walk_of_slashes {ps : List String} (slashes : ps.all (· = "") = true) (t : Tree) (trail : Trail) :
    t.walk trail ps = .ok (.directory trail) := by
  induction ps with
  | nil => rfl
  | cons p rest ih =>
    obtain ⟨empty, others⟩ := Bool.and_eq_true_iff.mp slashes
    rw [of_decide_eq_true empty, walk_empty_cons]
    exact ih others

/-- A part of a path to a free name leads onward, in every tree that has grown, or it is the name and nothing but
slashes is behind it. -/
theorem free_cons {d : Trail} {p : String} {rest : List String} (free : t.walk d (p :: rest) = .ok (.free trail)) :
    (∃ e, t.walk e rest = .ok (.free trail) ∧ ∀ u, Grows t u → u.walk d (p :: rest) = u.walk e rest) ∨
      t.entry? trail = none ∧ rest.all (· = "") = true ∧
        ∀ u : Tree, u.walk d (p :: rest) =
          match u.entry? trail with
          | some .directory => u.walk trail rest
          | some (.file c) => if rest = [] then .ok (.file trail c) else .error .notADirectory
          | none => .ok (.free trail) := by
  rw [walk] at free
  split at free
  · rename_i skip
    exact .inl ⟨d, free, fun u _ => by rw [walk, if_pos skip]⟩
  · rename_i named
    split at free
    · rename_i up
      exact .inl ⟨d.dropLast, free, fun u _ => by rw [walk, if_neg named, if_pos up]⟩
    · rename_i down
      split at free
      · cases free
      · rename_i short
        have step (u : Tree) := walk.eq_2 u d p rest
        simp only [if_neg named, if_neg down, if_neg short] at step
        dsimp only at free
        split at free
        · rename_i there
          exact .inl ⟨d ++ [p], free, fun u grows => by rw [step, grows.directory _ there]⟩
        · split at free <;> cases free
        · rename_i gone
          split at free
          · rename_i slashes
            obtain rfl : d ++ [p] = trail := by simpa using free
            simp only [if_pos slashes] at step
            exact .inr ⟨gone, slashes, step⟩
          · cases free

theorem none_of_free {ps : List String} {start : Trail} (free : t.walk start ps = .ok (.free trail)) :
    t.entry? trail = none := by
  induction ps generalizing start with
  | nil => cases free
  | cons p rest ih =>
    obtain ⟨e, onward, -⟩ | ⟨gone, -, -⟩ := free_cons free
    · exact ih onward
    · exact gone

/-- A path to a free name leads to what is made there, or to the name as long as it is free. -/
theorem walk_of_free {ps : List String} {start : Trail} (free : t.walk start ps = .ok (.free trail))
    (grows : Grows t u) :
    (u.entry? trail = some .directory → u.walk start ps = .ok (.directory trail)) ∧
      (u.entry? trail = none → u.walk start ps = .ok (.free trail)) := by
  induction ps generalizing start with
  | nil => cases free
  | cons p rest ih =>
    obtain ⟨e, onward, step⟩ | ⟨-, slashes, step⟩ := free_cons free
    · rw [step u grows]
      exact ih onward
    · refine ⟨fun made => ?_, fun still => ?_⟩
      · rw [step, made]
        exact walk_of_slashes slashes u _
      · rw [step, still]

end SlotBinding.Files.Tree
