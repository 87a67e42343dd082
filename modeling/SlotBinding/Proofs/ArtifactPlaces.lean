import SlotBinding.Proofs.ArtifactNames
import SlotBinding.Proofs.BinderTable

/-!
# Where artifacts can be

Sites can name crates, modules and structs by any texts. `names_in_place`: whatever the texts are, a pass asks
its sink for the table and for files that are named by identifiers, in the directory of all hosts. A host
whose names make no identifier stops the pass before its file is asked for.
-/

namespace SlotBinding

structure IsIdentifier (x : String) : Prop where
  spelled : Spelled x
  notReserved : Syntax.isName x = true

/-- The name of the table, or of a file in the directory of all hosts that is named by an identifier. -/
inductive InPlace : String → Prop
  | table : InPlace "viewbind.rs"
  | binder {front : String} (valid : IsIdentifier (front ++ "__Bind")) :
      InPlace ("viewbind/" ++ (front ++ "__Bind") ++ ".rs")

namespace HostModel

theorem isName_append_bind (s : String) : Syntax.isName (s ++ "__Bind") = true := by
  have keywords : ∀ w ∈ Syntax.keywords, ¬"__Bind".toList <:+ w.toList := by decide
  have other : s ++ "__Bind" ∉ Syntax.keywords := by
    intro member
    apply keywords _ member
    rw [String.toList_append]
    exact List.suffix_append _ _
  simpa [Syntax.isName] using other

variable {m : HostModel} {x name : String}

theorem binderIdent_eq_ok_iff :
    m.binderIdent = .ok x ↔ IsIdentifier (m.mangledName ++ "__Bind") ∧ x = m.mangledName ++ "__Bind" := by
  rw [binderIdent, Identifier.ofText_eq_ok_iff]
  constructor
  · rintro ⟨spelled, same⟩
    exact ⟨⟨spelled, isName_append_bind _⟩, same⟩
  · rintro ⟨valid, same⟩
    exact ⟨valid.spelled, same⟩

/-- A host has a file exactly if its names make an identifier. -/
theorem artifactPath_eq_ok_iff :
    m.artifactPath = .ok name ↔
      IsIdentifier (m.mangledName ++ "__Bind") ∧ name = "viewbind/" ++ (m.mangledName ++ "__Bind") ++ ".rs" := by
  have directory (x : String) : artifactDir ++ "/" ++ (x ++ ".rs") = "viewbind/" ++ x ++ ".rs" := by
    rw [← String.append_assoc]
    rfl
  constructor
  · intro path
    obtain ⟨x, ident, rfl⟩ := artifactPath_ok path
    obtain ⟨valid, rfl⟩ := binderIdent_eq_ok_iff.mp ident
    exact ⟨valid, directory _⟩
  · rintro ⟨valid, rfl⟩
    rw [← directory]
    exact artifactPath_of_binderIdent (binderIdent_eq_ok_iff.mpr ⟨valid, rfl⟩)

theorem inPlace_of_artifactPath (path : m.artifactPath = .ok name) : InPlace name := by
  obtain ⟨valid, rfl⟩ := artifactPath_eq_ok_iff.mp path
  exact .binder valid

end HostModel

/-! ### What a pass asks for -/

namespace Generator

variable {σ : Type u} {α : Type v} {β : Type w} {g : Generator} {k : Sink σ} {ms : List HostModel}

/-- The names that are asked for on the way through some hosts, and behind all of them. The first host without an
artifact stops the way, and nothing is asked for from there on. -/
inductive AsksFor (g : Generator) (ms : List HostModel) (last : List String) :
    Except NameFault α → List String → Prop
  | ended {a : α} {files : List String} (each : ms.map (·.artifactPath) = files.map .ok) :
      AsksFor g ms last (.ok a) (files ++ last)
  | stopped {f : NameFault} {before behind : List HostModel} {m : HostModel} {files : List String}
      (hosts : ms = before ++ m :: behind) (fails : g.artifact m = .error f)
      (each : before.map (·.artifactPath) = files.map .ok) : AsksFor g ms last (.error f) files

namespace AsksFor

variable {result : Except NameFault α} {last names : List String} {m : HostModel}

theorem nil (a : α) : AsksFor g [] last (.ok a) last := by
  have each : ([] : List HostModel).map (·.artifactPath) = ([] : List String).map .ok := rfl
  exact .ended each

theorem stop {f : NameFault} (fails : g.artifact m = .error f) :
    AsksFor g (m :: ms) last (.error f : Except NameFault α) [] := by
  have hosts : m :: ms = [] ++ m :: ms := rfl
  exact .stopped hosts fails rfl

theorem cons {text file : String} (made : g.artifact m = .ok (text, file)) (later : AsksFor g ms last result names)
    (f : α → β) : AsksFor g (m :: ms) last (result.map f) (file :: names) := by
  have own : m.artifactPath = .ok file := (artifact_ok made).2
  cases later with
  | @ended a files each =>
    have each : (m :: ms).map (·.artifactPath) = (file :: files).map .ok := by
      rw [List.map_cons, List.map_cons, own, each]
    exact .ended each
  | @stopped fault before behind n _ hosts fails each =>
    have hosts : m :: ms = (m :: before) ++ n :: behind := by rw [hosts, List.cons_append]
    have each : (m :: before).map (·.artifactPath) = (file :: names).map .ok := by
      rw [List.map_cons, List.map_cons, own, each]
    exact .stopped hosts fails each

theorem forall_names {P : String → Prop} (asks : AsksFor g ms last result names)
    (hosts : ∀ (m : HostModel) name, m.artifactPath = .ok name → P name) (others : ∀ name ∈ last, P name) :
    ∀ name ∈ names, P name := by
  have ofHosts {before : List HostModel} {files : List String}
      (each : before.map (·.artifactPath) = files.map .ok) : ∀ name ∈ files, P name := by
    intro name among
    have made : Except.ok name ∈ before.map (·.artifactPath) := each ▸ List.mem_map_of_mem among
    obtain ⟨m, -, path⟩ := List.mem_map.mp made
    exact hosts m name path
  cases asks with
  | ended each =>
    intro name among
    rcases List.mem_append.mp among with host | behind
    · exact ofHosts each name host
    · exact others name behind
  | stopped _ _ each => exact ofHosts each

theorem exists_error (asks : AsksFor g ms last result names) (among : m ∈ ms)
    (invalid : ¬IsIdentifier (m.mangledName ++ "__Bind")) : ∃ f, result = .error f := by
  cases asks with
  | @ended a files each =>
    have made : m.artifactPath ∈ files.map Except.ok := each ▸ List.mem_map_of_mem among
    obtain ⟨file, -, path⟩ := List.mem_map.mp made
    exact absurd (HostModel.artifactPath_eq_ok_iff.mp path.symm).1 invalid
  | stopped hosts fails each => exact ⟨_, rfl⟩

end AsksFor

theorem asksFor_writeModels (g : Generator) (k : Sink σ) (ms : List HostModel) (s : σ) (calls : List Sink.Call) :
    ∃ names, AsksFor g ms [] (g.writeModels k.noting ms (s, calls)).1 names ∧
      (g.writeModels k.noting ms (s, calls)).2.2.map (·.name) = calls.map (·.name) ++ names := by
  induction ms generalizing s calls with
  | nil => exact ⟨[], .nil _, (List.append_nil _).symm⟩
  | cons m rest ih =>
    rw [writeModels]
    cases made : g.artifact m with
    | error f => exact ⟨[], .stop made, (List.append_nil _).symm⟩
    | ok artifact =>
      obtain ⟨text, file⟩ := artifact
      obtain ⟨names, asks, all⟩ :=
        ih (k.create s file text).1 (calls ++ [⟨file, text, (k.create s file text).2⟩])
      rw [List.map_append, List.append_assoc] at all
      exact ⟨file :: names, asks.cons made _, all⟩

theorem asksFor_runPass (g : Generator) (sites : List Site) (k : Sink σ) (s : σ) :
    let ran := g.runPass sites k.noting (s, [])
    AsksFor g (g.group sites).models.values [tableFile] ran.1 (ran.2.2.map (·.name)) := by
  obtain ⟨names, asks, all⟩ := asksFor_writeModels g k (g.group sites).models.values s []
  unfold runPass
  dsimp only
  cases wrote : g.writeModels k.noting (g.group sites).models.values (s, []) with
  | mk result after =>
    rw [wrote] at asks all
    rw [List.map_nil, List.nil_append] at all
    cases asks with
    | stopped hosts fails each =>
      dsimp only
      rw [all]
      exact .stopped hosts fails each
    | @ended log files each =>
      obtain ⟨text, -, table⟩ := writeTable_of_writeModels wrote
      have behind : (k.noting.create after tableFile text).1.2.map (·.name) = files ++ [tableFile] := by
        have noted : (k.noting.create after tableFile text).1.2.map (·.name) =
            after.2.map (·.name) ++ [tableFile] := List.map_append
        rw [noted, all, List.append_nil]
      dsimp only
      rw [table]
      dsimp only
      rw [behind]
      exact .ended each

/-- Whatever texts the sites hold, a pass asks for the table and for files in the directory of all hosts, in the
order of the hosts. Such a file is named by the identifier that the names of its host make. If they make none,
or the host has no path, then the pass stops in front of it. -/
theorem names_in_place (g : Generator) (sites : List Site) (k : Sink σ) (s : σ) :
    let models := (g.group sites).models.values
    let ran := g.runPass sites k.noting (s, [])
    let names := ran.2.2.map (·.name)
    (ran.1 = (g.runPass sites k s).1 ∧ ran.2.1 = (g.runPass sites k s).2) ∧
    (∀ name ∈ names, InPlace name ∧ ∃ above x, ArtifactName name above x) ∧
    AsksFor g models [tableFile] ran.1 names ∧
    (∀ m ∈ models, ¬IsIdentifier (m.mangledName ++ "__Bind") → ∃ f, ran.1 = .error f) ∧
    ∀ (m : HostModel) name, m.artifactPath = .ok name ↔
      IsIdentifier (m.mangledName ++ "__Bind") ∧ name = "viewbind/" ++ (m.mangledName ++ "__Bind") ++ ".rs" := by
  intro models ran names
  have asks : AsksFor g models [tableFile] ran.1 names := asksFor_runPass g sites k s
  refine ⟨runPass_noting_eq g sites k s [], ?_, asks, fun m among => asks.exists_error among,
    fun m name => HostModel.artifactPath_eq_ok_iff⟩
  refine asks.forall_names (P := fun name => InPlace name ∧ ∃ above x, ArtifactName name above x) ?_ ?_
  · intro m name path
    obtain ⟨x, -, artifact⟩ := artifactName_of_artifactPath path
    exact ⟨HostModel.inPlace_of_artifactPath path, _, x, artifact⟩
  · intro name among
    obtain rfl := List.mem_singleton.mp among
    exact ⟨.table, _, _, artifactName_tableFile⟩

/-- A host that names a file outside of the directory, behind one that does not. -/
theorem names_in_place_of_parent_directory :
    let g : Generator := { config := .ofCrate "app", renderer := { runtime := ":: viewbind" } }
    let home := Host.visible "app" ["r#type"] "Home"
    let outside := Host.visible "app" ["~/.."] "..\x00/Home"
    let sites := [outside.site 1 "x", home.site 1 "x"]
    let names := (g.runPass sites MemorySink.sink.noting ({}, [])).2.2.map (·.name)
    let result := (g.runPass sites MemorySink.sink.noting ({}, [])).1
    names = ["viewbind/app__type__Home__Bind.rs"] ∧ InPlace "viewbind/app__type__Home__Bind.rs" ∧
      ¬IsIdentifier ((HostModel.ofHost outside).mangledName ++ "__Bind") ∧ ∃ f, result = .error f := by
  intro g home outside sites names result
  obtain ⟨_, places, _, stops, file⟩ := names_in_place g sites MemorySink.sink {}
  have asked : names = ["viewbind/app__type__Home__Bind.rs"] := by decide +kernel
  have invalid : ¬IsIdentifier ((HostModel.ofHost outside).mangledName ++ "__Bind") := by
    intro valid
    have path := (file (HostModel.ofHost outside) _).mpr ⟨valid, rfl⟩
    have none : (HostModel.ofHost outside).artifactPath.toOption = none := by decide +kernel
    rw [path] at none
    cases none
  have modelled : (g.group sites).models.values.any (fun m =>
      m.mangledName = (HostModel.ofHost outside).mangledName) = true := by
    decide +kernel
  obtain ⟨m, among, same⟩ := List.any_eq_true.mp modelled
  have own : ¬IsIdentifier (m.mangledName ++ "__Bind") := by
    rw [of_decide_eq_true same]
    exact invalid
  have first : "viewbind/app__type__Home__Bind.rs" ∈ names := by
    rw [asked]
    exact List.mem_singleton_self _
  exact ⟨asked, (places _ first).1, invalid, stops m among own⟩

end Generator

end SlotBinding
