import SlotBinding.Proofs.Writing
import SlotBinding.Sink.Directory

/-!
# Names that a sink has given away

A sink that remembers its names creates each of them once. Both sinks do so, also behind one that refuses some
names, and a pass that writes to such a sink never writes two artifacts of one name.
-/

namespace SlotBinding

namespace Sink

variable {σ : Type u} {k : Sink σ} {taken : σ → String → Prop}

/-- A created name is taken, it stays so, and a taken name is refused without any change. -/
structure Remembers (k : Sink σ) (taken : σ → String → Prop) : Prop where
  takes {s : σ} {name text : String} (created : (k.create s name text).2 = none) :
    taken (k.create s name text).1 name
  keeps {s : σ} {name : String} (held : taken s name) (other text : String) :
    taken (k.create s other text).1 name
  refuses {s : σ} {name : String} (held : taken s name) (text : String) :
    ∃ e, k.create s name text = (s, some e)

theorem create_refusing_of_mem {names : List String} {name : String} (among : name ∈ names)
    (fault : Files.Fault) (k : Sink σ) (s : σ) (text : String) :
    (k.refusing names fault).create s name text = (s, some (.io name fault)) := by
  have found : names.contains name = true := List.contains_iff_mem.mpr among
  simp only [refusing, found, if_true]

theorem create_refusing_of_not_mem {names : List String} {name : String} (apart : name ∉ names)
    (fault : Files.Fault) (k : Sink σ) (s : σ) (text : String) :
    (k.refusing names fault).create s name text = k.create s name text := by
  have missing : ¬names.contains name = true := fun found => apart (List.contains_iff_mem.mp found)
  simp only [refusing, missing, Bool.false_eq_true, if_false]

theorem Remembers.refusing (memory : k.Remembers taken) (names : List String) (fault : Files.Fault) :
    (k.refusing names fault).Remembers fun s name => name ∈ names ∨ taken s name where
  takes := by
    intro s name text created
    by_cases among : name ∈ names
    · exact .inl among
    · rw [create_refusing_of_not_mem among] at created ⊢
      exact .inr (memory.takes created)
  keeps := by
    intro s name held other text
    by_cases among : other ∈ names
    · rw [create_refusing_of_mem among]
      exact held
    · rw [create_refusing_of_not_mem among]
      exact held.imp_right fun before => memory.keeps before other text
  refuses := by
    intro s name held text
    by_cases among : name ∈ names
    · exact ⟨_, create_refusing_of_mem among fault k s text⟩
    · rw [create_refusing_of_not_mem among]
      exact memory.refuses (held.resolve_left among) text

end Sink

namespace MemorySink

def Holds (s : MemorySink) (name : String) : Prop := (s.get? name).isSome = true

theorem holds_create (s : MemorySink) (name text : String) : Holds (create s name text).1 name := by
  unfold Holds
  cases found : s.get? name with
  | none => simp [create_of_none found]
  | some held => simp [create_of_some found, found]

theorem create_of_holds {s : MemorySink} {name : String} (held : Holds s name) (text : String) :
    create s name text = (s, some (.alreadyExists name)) := by
  obtain ⟨_, found⟩ := Option.isSome_iff_exists.mp held
  exact create_of_some found text

theorem remembers : sink.Remembers Holds where
  takes := fun {s name text} _ => holds_create s name text
  keeps := by
    intro s name held other text
    obtain ⟨_, found⟩ := Option.isSome_iff_exists.mp held
    exact Option.isSome_iff_exists.mpr ⟨_, get?_create_of_some found other text⟩
  refuses := fun held text => ⟨_, create_of_holds held text⟩

end MemorySink

namespace DirectorySink

theorem create_of_mem {s : DirectorySink} {name : String} (held : name ∈ s.created) (text : String) :
    create s name text = (s, some (.alreadyExists name)) := by
  have found : s.created.contains name = true := List.contains_iff_mem.mpr held
  simp only [create, found, if_true]

/-- Every outcome of a creation but the last leaves the list of names as it was. -/
theorem created_create (s : DirectorySink) (name text : String) :
    (create s name text).1.created = s.created ∧ (create s name text).2 ≠ none ∨
      (create s name text).1.created = name :: s.created ∧ (create s name text).2 = none := by
  unfold create
  split
  · exact .inl ⟨rfl, nofun⟩
  · dsimp only
    split
    · exact .inl ⟨rfl, nofun⟩
    · split
      · exact .inl ⟨rfl, nofun⟩
      · exact .inr ⟨rfl, rfl⟩

theorem remembers : sink.Remembers fun s name => name ∈ s.created where
  takes := by
    intro s name text created
    rcases created_create s name text with ⟨_, failed⟩ | ⟨names, _⟩
    · exact absurd created failed
    · have head : name ∈ (create s name text).1.created := by
        rw [names]
        exact List.mem_cons_self
      exact head
  keeps := by
    intro s name held other text
    have stays : name ∈ (create s other text).1.created := by
      rcases created_create s other text with ⟨names, _⟩ | ⟨names, _⟩
      · rw [names]
        exact held
      · rw [names]
        exact List.mem_cons_of_mem _ held
    exact stays
  refuses := fun held text => ⟨_, create_of_mem held text⟩

end DirectorySink

/-! ### Passes to such a sink -/

namespace Generator

variable {σ : Type u} {g : Generator} {k : Sink σ} {taken : σ → String → Prop} {s t : σ} {cs : List Creation}

theorem taken_of_creates (memory : k.Remembers taken) (creates : Creates g k s cs t) {name : String}
    (held : taken s name) : taken t name := by
  induction creates with
  | nil => exact held
  | @cons s next t c rest made answered tail ih =>
    have stays := memory.keeps held c.file c.text
    rw [answered] at stays
    exact ih stays

theorem taken_of_written (memory : k.Remembers taken) (creates : Creates g k s cs t) {c : Creation}
    (member : c ∈ cs) (written : c.answer = none) : taken t c.file := by
  induction creates with
  | nil => cases member
  | @cons s next t d rest made answered tail ih =>
    rcases List.mem_cons.mp member with rfl | later
    · have held : taken (k.create s c.file c.text).1 c.file := memory.takes (by rw [answered]; exact written)
      rw [answered] at held
      exact taken_of_creates memory tail held
    · exact ih later

/-- What is taken before some creations is not among the files that they write. -/
theorem file_ne_of_taken (memory : k.Remembers taken) (creates : Creates g k s cs t) {name : String}
    (held : taken s name) {c : Creation} (member : c ∈ cs) (written : c.answer = none) : c.file ≠ name := by
  induction creates with
  | nil => cases member
  | @cons s next t d rest made answered tail ih =>
    rcases List.mem_cons.mp member with rfl | later
    · rintro rfl
      obtain ⟨e, refused⟩ := memory.refuses held c.text
      rw [answered] at refused
      have answer : c.answer = some e := (Prod.mk.inj refused).2
      rw [written] at answer
      cases answer
    · have stays := memory.keeps held d.file d.text
      rw [answered] at stays
      exact ih stays later

/-- No two artifacts that a pass writes are in one file. -/
theorem pairwise_written (memory : k.Remembers taken) (creates : Creates g k s cs t) :
    (cs.filter (·.isWritten)).Pairwise fun c d => c.file ≠ d.file := by
  induction creates with
  | nil => exact .nil
  | @cons s next t c rest made answered tail ih =>
    rw [List.filter_cons]
    split
    · rename_i written
      have none : c.answer = none := Option.isNone_iff_eq_none.mp written
      have held : taken (k.create s c.file c.text).1 c.file := memory.takes (by rw [answered]; exact none)
      rw [answered] at held
      refine List.pairwise_cons.mpr ⟨?_, ih⟩
      intro d member
      obtain ⟨later, writtenD⟩ := List.mem_filter.mp member
      exact (file_ne_of_taken memory tail held later (Option.isNone_iff_eq_none.mp writtenD)).symm
    · exact ih

end Generator

end SlotBinding
