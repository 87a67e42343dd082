import SlotBinding.Proofs.ArtifactNames

/-!
# What a creation changes in a file tree

`create_cases` says all that a sink in a directory can do for a name. From it follow what stays as it was
(`Advance`, `stores_create`), and that a creation which is made again has the same answer and changes nothing
(`create_again`).
-/

namespace SlotBinding

open Files (Content Path Trail Tree)
open Files.Path (parts_injective)
open Files.Tree (Grows MoreDirectories Sound Strays directory_of_grows set_of_ne set_self grows_set_file
  longestName onward ordinary_of_ne size_set start walk_append walk_keeps walk_ordinary)

namespace Files.Tree

variable {t u v w : Tree} {root : Path} {d e trail : Trail} {ps : List String}

theorem not_strays_of_more (steady : ¬Strays t root) (more : MoreDirectories t u) : ¬Strays u root := by
  rintro ⟨v, front, moreV, ahead, gone, trail, c, file⟩
  refine steady ⟨v, front, more.trans moreV, ahead, ?_, trail, c, file⟩
  have keeps := walk_keeps more.grows (start root) front
  cases before : t.walk (start root) front with
  | error f =>
    rw [before, gone] at keeps
    rcases keeps with rfl | same
    · rfl
    · rw [Except.error.inj same]
  | ok place =>
    rw [before, gone] at keeps
    cases place with
    | directory => cases keeps
    | file =>
      obtain ⟨_, there⟩ := keeps
      cases there
    | free other =>
      -- A free name is still free in the larger tree, or a directory by now; neither makes the path fail.
      obtain ⟨made, still⟩ := walk_of_free before more.grows
      obtain same | ⟨_, directory⟩ := more other
      · have led := still (same.trans (none_of_free before))
        rw [gone] at led
        cases led
      · have led := made directory
        rw [gone] at led
        cases led

theorem not_strays_of_directory (leads : t.walk (start root) root.parts = .ok (.directory d)) :
    ¬Strays t root := by
  rintro ⟨_, front, _, ⟨rest, parts⟩, gone, _⟩
  rw [← parts, walk_append, gone] at leads
  cases leads

/-- What becomes of a tree when files are created in a directory: nothing is taken away, and a file is only
written over if it lies in the directory. -/
structure Advance (root : Path) (t w : Tree) : Prop where
  grows : Grows t w
  size : t.entries.size ≤ w.entries.size
  frame : ∀ trail c, t.entry? trail = some (.file c) →
    w.entry? trail = some (.file c) ∨ ∃ d, w.walk (start root) root.parts = .ok (.directory d) ∧ d <+: trail

theorem Advance.refl (root : Path) (t : Tree) : Advance root t t :=
  ⟨.refl t, Nat.le_refl _, fun _ _ there => .inl there⟩

theorem Advance.trans (first : Advance root t u) (second : Advance root u w) : Advance root t w := by
  refine ⟨first.grows.trans second.grows, Nat.le_trans first.size second.size, fun trail c there => ?_⟩
  obtain same | ⟨d, leads, below⟩ := first.frame trail c there
  · exact second.frame trail c same
  · exact .inr ⟨d, directory_of_grows leads second.grows, below⟩

theorem advance_of_more (more : MoreDirectories t u) (size : t.entries.size ≤ u.entries.size) : Advance root t u :=
  ⟨more.grows, size, fun trail c there => .inl ((more.file_iff trail c).mpr there)⟩

theorem advance_set_file (leads : t.walk (start root) root.parts = .ok (.directory d))
    (free : t.entry? (d ++ ps) ≠ some .directory) (c : Content) : Advance root t (t.set (d ++ ps) (.file c)) := by
  have grows := grows_set_file (ordinary_of_ne free) free c
  refine ⟨grows, size_set t _ _, fun trail held there => ?_⟩
  by_cases here : trail = d ++ ps
  · exact .inr ⟨d, directory_of_grows leads grows, here ▸ List.prefix_append d ps⟩
  · exact .inl (by rw [set_of_ne here, there])

end Files.Tree

open Files.Tree (Advance advance_of_more advance_set_file not_strays_of_directory not_strays_of_more)

/-! ### Artifacts in a tree -/

structure Stores (w : Tree) (root : Path) (name text : String) (d : Trail) : Prop where
  leads : w.walk (start root) root.parts = .ok (.directory d)
  sound : Sound (root.join name)
  held : w.entry? (d ++ Path.parts name) = some (.file (.text text))
  place : ∃ above x, ArtifactName name above x ∧ x.utf8ByteSize ≤ longestName ∧
    w.walk (start root) (root.parts ++ above) = .ok (.directory (d ++ above))

namespace Stores

variable {v w : Tree} {root : Path} {name text : String} {d : Trail}

theorem grows (stores : Stores v root name text d) (grows : Grows v w)
    (held : w.entry? (d ++ Path.parts name) = v.entry? (d ++ Path.parts name)) : Stores w root name text d := by
  obtain ⟨above, x, artifact, short, led⟩ := stores.place
  exact ⟨directory_of_grows stores.leads grows, stores.sound, held.trans stores.held, above, x, artifact, short,
    directory_of_grows led grows⟩

theorem read_eq (stores : Stores w root name text d) : w.read (root.join name) = .ok text := by
  obtain ⟨above, x, artifact, short, led⟩ := stores.place
  obtain ⟨q, target⟩ := artifact.target root
  have held := stores.held
  rw [artifact.parts, ← List.append_assoc] at held
  unfold Files.Tree.read
  rw [target.find_eq stores.sound led, walk_ordinary artifact.ordinary short, held]

/-- An artifact that stands there is created again without a change. -/
theorem attempt_eq (stores : Stores w root name text d) : Tree.attempt w (root.join name) text = (w, none) := by
  obtain ⟨above, x, artifact, short, led⟩ := stores.place
  obtain ⟨q, target⟩ := artifact.target root
  have held := stores.held
  rw [artifact.parts, ← List.append_assoc] at held
  exact target.attempt_again stores.sound short led held

end Stores

namespace DirectorySink

variable {s : DirectorySink} {name x text : String} {above : List String}

/-- What a creation of a new name comes to: some directories are made, and if it does not fail, a file is written
below the directory of the sink. A fault stays, unless the path of the directory strays. -/
theorem create_cases (artifact : ArtifactName name above x) (fresh : name ∉ s.created) (text : String) :
    (∃ u f, MoreDirectories s.tree u ∧ s.tree.entries.size ≤ u.entries.size ∧
      s.create name text = ({ s with tree := u }, some (.io name f)) ∧
      (Strays s.tree s.root ∨ ∀ w, Grows u w → Tree.attempt w (s.root.join name) text = (w, some f))) ∨
    ∃ u d, MoreDirectories s.tree u ∧ s.tree.entries.size ≤ u.entries.size ∧
      u.walk (start s.root) s.root.parts = .ok (.directory d) ∧
      Advance s.root u (u.set (d ++ Path.parts name) (.file (.text text))) ∧
      Stores (u.set (d ++ Path.parts name) (.file (.text text))) s.root name text d ∧
      s.create name text =
        ({ s with tree := u.set (d ++ Path.parts name) (.file (.text text)), created := name :: s.created }, none) := by
  obtain ⟨q, target⟩ := artifact.target s.root
  rw [create_eq, if_neg fun taken => fresh (List.contains_iff_mem.mp taken)]
  obtain ⟨u, f, more, size, failed, stays⟩ | ⟨u, e, more, size, led, sound, short, free, written⟩ :=
    target.attempt_cases s.tree text
  · rw [failed]
    exact .inl ⟨u, f, more, size, rfl, stays⟩
  · obtain ⟨d, leads, rfl⟩ := artifact.exists_root led
    have place : d ++ above ++ [x] = d ++ Path.parts name := by rw [artifact.parts, List.append_assoc]
    rw [place] at free written
    have ordinary := ordinary_of_ne free
    have advance := advance_set_file (c := .text text) leads free
    rw [written]
    refine .inr ⟨u, d, more, size, leads, advance, ?_, rfl⟩
    exact ⟨directory_of_grows leads advance.grows, sound, set_self ordinary _, above, x, artifact, short,
      directory_of_grows led advance.grows⟩

theorem root_create (s : DirectorySink) (name text : String) : (s.create name text).1.root = s.root := by
  unfold create
  split
  · rfl
  · dsimp only
    split
    · rfl
    · split <;> rfl

variable (artifact : ArtifactName name above x)
include artifact

theorem advance_create : Advance s.root s.tree (s.create name text).1.tree := by
  by_cases taken : name ∈ s.created
  · rw [create_of_mem taken]
    exact .refl _ _
  obtain ⟨u, f, more, size, failed, _⟩ | ⟨u, d, more, size, _, advance, _, written⟩ :=
    create_cases artifact taken text
  · rw [failed]
    exact advance_of_more more size
  · rw [written]
    exact (advance_of_more more size).trans advance

theorem not_strays_create (steady : ¬Strays s.tree s.root) : ¬Strays (s.create name text).1.tree s.root := by
  by_cases taken : name ∈ s.created
  · rw [create_of_mem taken]
    exact steady
  obtain ⟨u, f, more, _, failed, _⟩ | ⟨u, d, _, _, _, _, stores, written⟩ := create_cases artifact taken text
  · rw [failed]
    exact not_strays_of_more steady more
  · rw [written]
    exact not_strays_of_directory stores.leads

theorem stores_create {other text' : String} {d : Trail} (stores : Stores s.tree s.root other text' d)
    (created : other ∈ s.created) : Stores (s.create name text).1.tree s.root other text' d := by
  by_cases taken : name ∈ s.created
  · rw [create_of_mem taken]
    exact stores
  have kept {u : Tree} (more : MoreDirectories s.tree u) : Stores u s.root other text' d :=
    stores.grows more.grows (by rw [stores.held, more.file_iff, stores.held])
  obtain ⟨u, f, more, _, failed, _⟩ | ⟨u, e, more, _, leads, advance, _, written⟩ :=
    create_cases artifact taken text
  · rw [failed]
    exact kept more
  · rw [written]
    refine (kept more).grows advance.grows (set_of_ne ?_ _)
    intro same
    rw [(kept more).leads] at leads
    obtain rfl : d = e := by simpa using leads
    exact taken (parts_injective (List.append_cancel_left same) ▸ created)

theorem stores_of_created (written : (s.create name text).2 = none) :
    ∃ d, Stores (s.create name text).1.tree s.root name text d := by
  by_cases taken : name ∈ s.created
  · rw [create_of_mem taken] at written
    cases written
  obtain ⟨u, f, _, _, failed, _⟩ | ⟨u, d, _, _, _, _, stores, made⟩ := create_cases artifact taken text
  · rw [failed] at written
    cases written
  · rw [made]
    exact ⟨d, stores⟩

/-- The same creation in a later tree has the same answer and changes nothing. -/
theorem create_again {w : Tree} (steady : ¬Strays s.tree s.root) (grows : Grows (s.create name text).1.tree w)
    (stores : (s.create name text).2 = none → ∃ d, Stores w s.root name text d) :
    create { s with tree := w } name text =
      ({ (s.create name text).1 with tree := w }, (s.create name text).2) := by
  by_cases taken : name ∈ s.created
  · rw [create_of_mem taken]
    exact create_of_mem (s := { s with tree := w }) taken text
  have fresh : ¬s.created.contains name = true := fun found => taken (List.contains_iff_mem.mp found)
  obtain ⟨u, f, _, _, failed, stays⟩ | ⟨u, d, _, _, _, _, _, made⟩ := create_cases artifact taken text
  · rw [failed] at grows ⊢
    rw [create_eq, if_neg fresh]
    dsimp only
    rw [stays.resolve_left steady w grows]
  · obtain ⟨_, stored⟩ := stores (by rw [made])
    rw [made, create_eq, if_neg fresh]
    dsimp only
    rw [stored.attempt_eq]

end DirectorySink

end SlotBinding
