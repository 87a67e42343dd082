import SlotBinding.Proofs.Files.Creation
import SlotBinding.Proofs.RepeatedPasses

/-!
# The names of artifacts as paths

A pass asks its sink for the files of some hosts and for the table. Each of these names leads to a file in the
directory of the sink or in the one for all hosts directly below it.
-/

namespace SlotBinding

open Files (Ordinary Path Trail Tree)
open Files.Path (Slashless isAbsolute)
open Files.Tree (Target directory_of_append start target_pair target_single walk_append walk_ordinary)

/-- A name in the directory of a sink, or in the one for all hosts below it. -/
structure ArtifactName (name : String) (above : List String) (x : String) : Prop where
  parts : Files.Path.parts name = above ++ [x]
  place : above = [] ∨ above = [artifactDir]
  ordinary : Ordinary x
  /-- It is not the name of the directory for all hosts. -/
  apart : above ++ [x] ≠ [artifactDir]
  relative : isAbsolute name = false
  noNul : '\x00' ∉ name.toList

theorem ordinary_artifactDir : Ordinary artifactDir := ⟨by decide, by decide, by decide⟩

theorem artifactName_tableFile : ArtifactName tableFile [] tableFile where
  parts := by decide +kernel
  place := .inl rfl
  ordinary := ⟨by decide, by decide, by decide⟩
  apart := by decide
  relative := by decide
  noNul := by decide

theorem artifactName_of_artifactPath {m : HostModel} {name : String} (path : m.artifactPath = .ok name) :
    ∃ x, m.artifactFile = .ok x ∧ ArtifactName name [artifactDir] x := by
  obtain ⟨ident, identified, rfl⟩ := HostModel.artifactPath_ok path
  have without {c : Char} (other : ¬(c = '#' ∨ Unicode.isIdentifierContinue c = true)) (dot : c ≠ '.') :
      c ∉ (ident ++ ".rs").toList := by
    intro member
    rw [String.toList_append] at member
    rcases List.mem_append.mp member with inner | suffix
    · exact other (Identifier.of_mem_ofText identified inner)
    · have letters : c = '.' ∨ c = 'r' ∨ c = 's' := by simpa using suffix
      rcases letters with same | rfl | rfl
      · exact dot same
      · exact other (.inr (by decide))
      · exact other (.inr (by decide))
  have slashless : Slashless (ident ++ ".rs") := without (by decide) (by decide)
  have long : 3 ≤ (ident ++ ".rs").length := by
    rw [String.length_append, show ".rs".length = 3 from rfl]
    omega
  have different (short : String) (size : short.length < 3) : ident ++ ".rs" ≠ short := by
    rintro rfl
    omega
  refine ⟨ident ++ ".rs", by rw [HostModel.artifactFile, identified]; rfl, ?_⟩
  exact
    { parts := by
        rw [Files.Path.parts_slash, Files.Path.parts_of_slashless slashless]
        rfl
      place := .inr rfl
      ordinary := ⟨different "" (by decide), different "." (by decide), different ".." (by decide)⟩
      apart := by simp
      relative := by
        rw [String.append_assoc, Files.Path.isAbsolute_append_left (by decide)]
        decide
      noNul := by
        intro member
        rw [String.toList_append] at member
        rcases List.mem_append.mp member with directory | file
        · exact absurd directory (by decide)
        · exact without (by decide) (by decide) file }

namespace ArtifactName

variable {name x : String} {above : List String}

theorem target (artifact : ArtifactName name above x) (root : Path) :
    ∃ q, Target root (root.join name) q above x := by
  obtain rfl | rfl := artifact.place
  · exact target_single artifact.relative artifact.parts artifact.ordinary root
  · exact target_pair artifact.relative artifact.parts ordinary_artifactDir artifact.ordinary root

theorem noNul_join (artifact : ArtifactName name above x) {root : Path} (noNul : '\x00' ∉ root.toList) :
    '\x00' ∉ (root.join name).toList := by
  unfold Files.Path.join
  rw [artifact.relative, if_neg Bool.false_ne_true]
  split
  · rw [String.toList_append, List.mem_append]
    exact not_or.mpr ⟨noNul, artifact.noNul⟩
  · rw [String.toList_append, String.toList_append, List.mem_append, List.mem_append]
    exact not_or.mpr ⟨not_or.mpr ⟨noNul, by decide⟩, artifact.noNul⟩

theorem sound_join (artifact : ArtifactName name above x) {root : Path} (noNul : '\x00' ∉ root.toList)
    (short : (root.join name).utf8ByteSize ≤ Files.Tree.longestPath) : Files.Tree.Sound (root.join name) := by
  obtain ⟨q, target⟩ := artifact.target root
  exact ⟨artifact.noNul_join noNul, target.beneath.nonempty artifact.ordinary, short⟩

theorem exists_root (artifact : ArtifactName name above x) {w : Tree} {root : Path} {e : Trail}
    (led : w.walk (start root) (root.parts ++ above) = .ok (.directory e)) :
    ∃ d, w.walk (start root) root.parts = .ok (.directory d) ∧ e = d ++ above := by
  obtain rfl | rfl := artifact.place
  · rw [List.append_nil] at led
    exact ⟨e, led, (List.append_nil e).symm⟩
  · obtain ⟨d, leads⟩ :=
      directory_of_append led ⟨artifactDir, List.mem_cons_self, ordinary_artifactDir.nonempty⟩
    refine ⟨d, leads, ?_⟩
    rw [walk_append, leads] at led
    have below : w.walk d [artifactDir] = .ok (.directory e) := led
    rw [walk_ordinary ordinary_artifactDir (by decide)] at below
    split at below <;> simp_all

end ArtifactName

namespace Generator

variable {g : Generator} {name : String}

def names (g : Generator) (sites : List Site) : List String :=
  g.asked (g.group sites).models.values ++ [tableFile]

theorem exists_model_of_asked {ms : List HostModel} (among : name ∈ g.asked ms) :
    ∃ m ∈ ms, m.artifactPath = .ok name := by
  induction ms with
  | nil => cases among
  | cons m rest ih =>
    rw [asked] at among
    split at among
    · cases among
    · rename_i text file made
      rcases List.mem_cons.mp among with rfl | later
      · exact ⟨m, List.mem_cons_self, (artifact_ok made).2⟩
      · obtain ⟨m', member, path⟩ := ih later
        exact ⟨m', List.mem_cons_of_mem _ member, path⟩

end Generator

end SlotBinding
