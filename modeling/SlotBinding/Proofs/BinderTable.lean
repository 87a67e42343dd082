import SlotBinding.Proofs.Conservation
import SlotBinding.Proofs.Names

/-!
# The table and what was written

A pass tells of its artifacts in the table, in the records and in the reports of failures.
`runPass_consistent` says for every sink that all three agree with the calls of the sink and their
answers, which `Sink.noting` makes visible.
-/

namespace SlotBinding

namespace Text

def bytes (s : String) : List UInt8 := s.toUTF8.data.toList

theorem bytes_eq (s : String) : bytes s = s.toList.flatMap String.utf8EncodeChar := by
  have whole : s.toUTF8 = s.toList.utf8Encode := String.utf8Encode_toList.symm
  rw [bytes, whole, List.utf8Encode, List.toList_data_toByteArray]

theorem ofNat_lt_ofNat {a b : Nat} (ha : a < 256) (hb : b < 256) :
    UInt8.ofNat a < UInt8.ofNat b ↔ a < b := by
  rw [UInt8.lt_iff_toNat_lt, UInt8.toNat_ofNat', UInt8.toNat_ofNat', Nat.mod_eq_of_lt ha,
    Nat.mod_eq_of_lt hb]

theorem ofNat_eq_ofNat {a b : Nat} (ha : a < 256) (hb : b < 256) :
    UInt8.ofNat a = UInt8.ofNat b ↔ a = b := by
  rw [← UInt8.toNat_inj, UInt8.toNat_ofNat', UInt8.toNat_ofNat', Nat.mod_eq_of_lt ha,
    Nat.mod_eq_of_lt hb]

/-- The code of the smaller character is below that of the greater one, whatever follows. -/
theorem utf8EncodeChar_append_lt {c d : Char} (below : c < d) (rest more : List UInt8) :
    String.utf8EncodeChar c ++ rest < String.utf8EncodeChar d ++ more := by
  have codes : c.val.toNat < d.val.toNat := below
  have valid : d.val.toNat < 0x110000 := by
    have scalar := d.valid
    unfold UInt32.isValidChar Nat.isValidChar at scalar
    omega
  simp only [String.utf8EncodeChar]
  generalize c.val.toNat = m at codes ⊢
  generalize d.val.toNat = n at codes valid ⊢
  -- Every byte but the first holds one digit in base 64.
  have second (k : Nat) : k / 4096 = k / 64 / 64 := by omega
  have third (k : Nat) : k / 262144 = k / 64 / 64 / 64 := by omega
  simp only [second, third]
  repeat' split
  all_goals
    simp (disch := omega) only [List.cons_append, List.nil_append, List.cons_lt_cons_iff,
      ofNat_lt_ofNat, ofNat_eq_ofNat]
    omega

/-- Texts in increasing order are in increasing order of their bytes. -/
theorem bytes_lt_bytes {s t : String} (below : s < t) : bytes s < bytes t := by
  rw [bytes_eq, bytes_eq]
  have lists := String.lt_iff.mp below
  generalize s.toList = cs at lists ⊢
  generalize t.toList = ds at lists ⊢
  induction cs generalizing ds with
  | nil =>
    cases ds with
    | nil => exact absurd lists (List.lt_irrefl _)
    | cons d ds =>
      cases code : String.utf8EncodeChar d with
      | nil => exact absurd code String.utf8EncodeChar_ne_nil
      | cons b more => simp [code]
  | cons c cs ih =>
    cases ds with
    | nil => cases lists
    | cons d ds =>
      rcases List.cons_lt_cons_iff.mp lists with first | ⟨rfl, rest⟩
      · exact utf8EncodeChar_append_lt first _ _
      · exact List.append_left_lt (ih ds rest)

end Text

/-! ### Calls of a sink -/

namespace Sink

structure Call where
  name : String
  text : String
  answer : Option ArtifactError

/-- The sink that notes its calls. -/
def noting {σ : Type u} (k : Sink σ) : Sink (σ × List Call) where
  create s name text :=
    let (next, answer) := k.create s.1 name text
    ((next, s.2 ++ [⟨name, text, answer⟩]), answer)

end Sink

namespace Generator

variable {σ : Type u} {g : Generator} {k : Sink σ} {sites : List Site}

def Creation.call (c : Creation) : Sink.Call := ⟨c.file, c.text, c.answer⟩

theorem creates_noting {s t : σ × List Sink.Call} {cs : List Creation}
    (h : Creates g k.noting s cs t) : t.2 = s.2 ++ cs.map (·.call) := by
  induction h with
  | nil s => simp
  | @cons s next t c rest made answered tail ih =>
    obtain ⟨rfl, answer⟩ := Prod.mk.inj answered
    rw [ih, List.map_cons, Creation.call, ← answer, List.append_assoc, List.singleton_append]

theorem writeModels_noting (g : Generator) (k : Sink σ) (ms : List HostModel) (s : σ)
    (calls : List Sink.Call) :
    (g.writeModels k.noting ms (s, calls)).1 = (g.writeModels k ms s).1 ∧
      (g.writeModels k.noting ms (s, calls)).2.1 = (g.writeModels k ms s).2 := by
  induction ms generalizing s calls with
  | nil => exact ⟨rfl, rfl⟩
  | cons m rest ih =>
    cases made : g.artifact m with
    | error f => simp [writeModels, made]
    | ok artifact =>
      obtain ⟨text, file⟩ := artifact
      obtain ⟨log, state⟩ := ih (k.create s file text).1
        (calls ++ [⟨file, text, (k.create s file text).2⟩])
      simp only [writeModels, made, Sink.noting] at log state ⊢
      exact ⟨by rw [log], state⟩

theorem runPass_noting_eq (g : Generator) (sites : List Site) (k : Sink σ) (s : σ) (calls : List Sink.Call) :
    (g.runPass sites k.noting (s, calls)).1 = (g.runPass sites k s).1 ∧
      (g.runPass sites k.noting (s, calls)).2.1 = (g.runPass sites k s).2 := by
  obtain ⟨log, state⟩ := writeModels_noting g k (g.group sites).models.values s calls
  unfold runPass
  dsimp only
  generalize g.writeModels k (g.group sites).models.values s = plain at log state ⊢
  generalize g.writeModels k.noting (g.group sites).models.values (s, calls) = noted at log state ⊢
  obtain ⟨noted, middle, calls⟩ := noted
  obtain ⟨plain, after⟩ := plain
  obtain rfl : noted = plain := log
  obtain rfl : middle = after := state
  cases noted with
  | error f => exact ⟨rfl, rfl⟩
  | ok log =>
    unfold writeTable
    dsimp only
    cases g.renderer.table log.written with
    | error f => exact ⟨rfl, rfl⟩
    | ok text => exact ⟨rfl, rfl⟩

theorem runPass_noting {s t : σ} {r : Report} (h : g.runPass sites k s = (.ok r, t)) :
    ∃ calls, g.runPass sites k.noting (s, []) = (.ok r, (t, calls)) := by
  obtain ⟨result, state⟩ := runPass_noting_eq g sites k s []
  rw [h] at result state
  exact ⟨_, Prod.ext result (Prod.ext state rfl)⟩

end Generator

/-! ### Reports on one host -/

theorem mem_toList_intercalate {separator s : String} {ss : List String} (among : s ∈ ss) {c : Char}
    (member : c ∈ s.toList) : c ∈ (separator.intercalate ss).toList := by
  induction ss with
  | nil => cases among
  | cons first rest ih =>
    cases rest with
    | nil =>
      obtain rfl := List.mem_singleton.mp among
      simpa using member
    | cons second more =>
      rw [String.intercalate_cons_cons, String.toList_append, String.toList_append]
      rcases List.mem_cons.mp among with rfl | later
      · exact List.mem_append_left _ (List.mem_append_left _ member)
      · exact List.mem_append_right _ (ih later)

namespace HostModel

/-- The names of a host with an identifier are words, perhaps with marks of raw names. -/
theorem of_mem_segments {m : HostModel} {x s : String} (ident : m.binderIdent = .ok x)
    (among : s ∈ m.segments) {c : Char} (member : c ∈ s.toList) :
    c = '#' ∨ Unicode.isIdentifierContinue c = true := by
  have bare : ∀ c ∈ ((Identifier.behindMark? s).getD s).toList,
      c = '#' ∨ Unicode.isIdentifierContinue c = true := by
    intro c inside
    apply Identifier.of_mem_ofText ident
    rw [Identifier.eq_of_ofText ident, String.toList_append]
    exact List.mem_append_left _
      (mem_toList_intercalate (List.mem_map.mpr ⟨s, among, rfl⟩) inside)
  unfold Identifier.behindMark? at bare
  split at bare
  · rename_i rest front
    rw [front] at member
    rcases List.mem_cons.mp member with rfl | member
    · exact Or.inr (by decide)
    · rcases List.mem_cons.mp member with rfl | member
      · exact Or.inl rfl
      · exact bare c (by simpa using member)
  · exact bare c member

theorem backtick_not_mem {m : HostModel} {x : String} (ident : m.binderIdent = .ok x) :
    '`' ∉ m.qualifiedName.toList := by
  have inside : ∀ s ∈ m.segments, '`' ∉ s.toList := by
    intro s among member
    rcases of_mem_segments ident among member with hash | word
    · cases hash
    · revert word
      decide
  intro member
  simp only [qualifiedName, String.toList_append, String.toList_join, List.mem_append,
    List.mem_flatMap, List.mem_map] at member
  rcases member with crate | ⟨_, ⟨n, among, rfl⟩, part⟩
  · exact inside m.crateName (by simp [segments]) crate
  · rcases List.mem_append.mp (String.toList_append ▸ part) with colons | name
    · simp at colons
    · exact inside n (by simpa [segments] using Or.inr among) name

def failureFront (m : HostModel) : String :=
  "unable to write binder for type `" ++ m.qualifiedName ++ "`: "

theorem toList_between (opening name closing : String) :
    (opening ++ name ++ closing).toList = opening.toList ++ (name.toList ++ closing.toList) := by
  rw [String.toList_append, String.toList_append, List.append_assoc]

theorem toList_failureFront (m : HostModel) :
    m.failureFront.toList =
      "unable to write binder for type `".toList ++ (m.qualifiedName.toList ++ ['`', ':', ' ']) :=
  toList_between _ m.qualifiedName "`: "

end HostModel

theorem eq_of_front {a b rest : List Char} {x : Char} (freeA : x ∉ a) (freeB : x ∉ b)
    (front : a ++ [x] <+: b ++ x :: rest) : a = b := by
  have upTo : ∀ (a rest : List Char), x ∉ a → (a ++ x :: rest).takeWhile (· ≠ x) = a := by
    intro a rest free
    rw [List.takeWhile_append_of_pos]
    · simp
    · intro c member
      simpa using fun same : c = x => free (same ▸ member)
  obtain ⟨more, same⟩ := front
  rw [List.append_assoc, List.singleton_append] at same
  rw [← upTo a more freeA, same, upTo b rest freeB]

/-- The diagnostic is an error at the place of the host, and its message names the host. -/
def Diagnostic.failsHost (m : HostModel) (d : Diagnostic) : Bool :=
  d.isError && d.kind = .artifactWriteFailure && d.location = some m.location &&
    m.failureFront.toList.isPrefixOf d.message.toList

namespace Generator

variable {σ : Type u} {g : Generator} {k : Sink σ} {sites : List Site} {s t : σ}

theorem message_hostFailure (m : HostModel) (e : ArtifactError) :
    (hostFailure m e).message = m.failureFront ++ e.message := by
  unfold hostFailure Diagnostic.error HostModel.failureFront
  dsimp only

theorem failsHost_hostFailure (m : HostModel) (e : ArtifactError) : (hostFailure m e).failsHost m := by
  simp only [Diagnostic.failsHost, Bool.and_eq_true, decide_eq_true_eq]
  refine ⟨⟨⟨rfl, rfl⟩, rfl⟩, ?_⟩
  rw [message_hostFailure, String.toList_append]
  exact List.isPrefixOf_iff_prefix.mpr (List.prefix_append _ _)

theorem qualifiedName_of_failsHost {m n : HostModel} {e : ArtifactError} {x y : String}
    (identM : m.binderIdent = .ok x) (identN : n.binderIdent = .ok y)
    (fails : (hostFailure n e).failsHost m) : m.qualifiedName = n.qualifiedName := by
  simp only [Diagnostic.failsHost, Bool.and_eq_true] at fails
  have front := List.isPrefixOf_iff_prefix.mp fails.2
  rw [message_hostFailure, String.toList_append, m.toList_failureFront, n.toList_failureFront,
    List.append_assoc, List.append_assoc, List.prefix_append_right_inj] at front
  have quoted : m.qualifiedName.toList ++ ['`'] <+: m.qualifiedName.toList ++ ['`', ':', ' '] :=
    (List.prefix_append_right_inj _).mpr (List.prefix_append ['`'] [':', ' '])
  exact String.toList_inj.mp (eq_of_front (HostModel.backtick_not_mem identM)
    (HostModel.backtick_not_mem identN) (quoted.trans front))

theorem tableFile_ne_artifactPath {m : HostModel} {file : String} (path : m.artifactPath = .ok file) :
    file ≠ tableFile := by
  obtain ⟨x, _, rfl⟩ := HostModel.artifactPath_ok path
  intro same
  have eighth := congrArg (fun s : String => s.toList[8]?) same
  simp [artifactDir, tableFile] at eighth

def writtenModels (cs : List Creation) : List HostModel := (cs.filter (·.isWritten)).map (·.model)

/-- What a pass says of its artifacts agrees with the calls of its sink: one for each host in order, and
then one for the table. -/
structure Consistent (g : Generator) (sites : List Site) (k : Sink σ) (s t : σ) (r : Report)
    (cs : List Creation) (table : Sink.Call) : Prop where
  calls : g.runPass sites k.noting (s, []) = (.ok r, (t, cs.map (·.call) ++ [table]))
  hosts : cs.map (·.model) = (g.group sites).models.values
  texts : ∀ c ∈ cs, g.artifact c.model = .ok (c.text, c.file)
  tableName : table.name = tableFile ∧ ∀ c ∈ cs, c.file ≠ tableFile
  tableText : g.renderer.table (writtenModels cs) = .ok table.text
  ordered : (writtenModels cs).Pairwise fun m n => Text.bytes m.qualifiedName < Text.bytes n.qualifiedName
  records : r.artifacts = (cs.filter (·.isWritten)).map (·.record)
  /-- A host that was refused has one error, and one that was written has none. -/
  failures : ∀ c ∈ cs, r.diagnostics.filter (·.failsHost c.model) = c.failure?.toList
  tableRecord : r.table = if table.answer.isNone then some tableFile else none
  /-- Only the last diagnostic can be one about the table. -/
  tableFailure : ∃ before, r.diagnostics = before ++ (table.answer.map tableFailure).toList ∧
    ∀ d ∈ before, d.kind = .artifactWriteFailure → d.location.isSome

namespace PassTrace

variable (p : PassTrace g sites k s t)

theorem kind_of_mem_early {d : Diagnostic} (member : d ∈ p.early) : d.kind ≠ .artifactWriteFailure := by
  intro failure
  rcases List.mem_append.mp member with rejected | duplicate
  · rw [kind_of_mem_rejections rejected] at failure
    cases failure
  · rw [kind_of_mem_group duplicate] at failure
    cases failure

theorem ident_of_mem {c : Creation} (member : c ∈ p.creations) : ∃ x, c.model.binderIdent = .ok x := by
  obtain ⟨x, ident, _⟩ := HostModel.artifactPath_ok (p.file_of_mem member)
  exact ⟨x, ident⟩

/-- Of the failures of all hosts only its own is about a host. -/
theorem failures_of_mem {c : Creation} (member : c ∈ p.creations) :
    (p.creations.filterMap (·.failure?)).filter (·.failsHost c.model) = c.failure?.toList := by
  obtain ⟨x, ident⟩ := p.ident_of_mem member
  have foreign : ∀ d ∈ p.creations, d.model.qualifiedName ≠ c.model.qualifiedName →
      ∀ f ∈ d.failure?, f.failsHost c.model = false := by
    intro d there different f failed
    obtain ⟨e, _, rfl⟩ := Option.map_eq_some_iff.mp failed
    obtain ⟨y, identD⟩ := p.ident_of_mem there
    exact Bool.eq_false_iff.mpr fun fails =>
      different (qualifiedName_of_failsHost ident identD fails).symm
  obtain ⟨before, after, parts⟩ := List.append_of_mem member
  have ordered := p.ordered
  rw [parts] at ordered foreign ⊢
  obtain ⟨_, behind, across⟩ := List.pairwise_append.mp ordered
  have noneBefore : (before.filterMap (·.failure?)).filter (·.failsHost c.model) = [] := by
    rw [List.filter_eq_nil_iff]
    intro f failed
    obtain ⟨d, earlier, failure⟩ := List.mem_filterMap.mp failed
    have below := across d earlier c List.mem_cons_self
    simp [foreign d (List.mem_append_left _ earlier)
      (fun same => String.lt_irrefl _ (same ▸ below)) f failure]
  have noneAfter : (after.filterMap (·.failure?)).filter (·.failsHost c.model) = [] := by
    rw [List.filter_eq_nil_iff]
    intro f failed
    obtain ⟨d, later, failure⟩ := List.mem_filterMap.mp failed
    have above := (List.pairwise_cons.mp behind).1 d later
    simp [foreign d (List.mem_append_right _ (List.mem_cons_of_mem _ later))
      (fun same => String.lt_irrefl _ (same ▸ above)) f failure]
  rw [List.filterMap_append, List.filterMap_cons, List.filter_append, noneBefore, List.nil_append]
  cases failed : c.failure? with
  | none => exact noneAfter
  | some f =>
    obtain ⟨e, _, rfl⟩ := Option.map_eq_some_iff.mp failed
    simp [failsHost_hostFailure, noneAfter]

theorem failures_report {c : Creation} (member : c ∈ p.creations) :
    p.report.diagnostics.filter (·.failsHost c.model) = c.failure?.toList := by
  have early : p.early.filter (·.failsHost c.model) = [] := by
    rw [List.filter_eq_nil_iff]
    intro d there
    simp [Diagnostic.failsHost, p.kind_of_mem_early there]
  have table : (p.tableAnswer.map Generator.tableFailure).toList.filter (·.failsHost c.model) = [] := by
    rw [List.filter_eq_nil_iff]
    intro d there
    simp [Diagnostic.failsHost, (of_mem_tableFailure there).2]
  rw [diagnostics_report, List.filter_append, List.filter_append, early, table, List.nil_append,
    List.append_nil, p.failures_of_mem member]

end PassTrace

theorem exists_noted_trace {r : Report} (h : g.runPass sites k s = (.ok r, t)) :
    ∃ calls, ∃ p : PassTrace g sites k.noting (s, []) (t, calls), r = p.report ∧
      g.runPass sites k.noting (s, []) =
        (.ok r, (t, p.creations.map (·.call) ++ [⟨tableFile, p.tableText, p.tableAnswer⟩])) := by
  obtain ⟨calls, noted⟩ := runPass_noting h
  obtain ⟨p, rfl⟩ := runPass_ok noted
  have before : p.middle.2 = p.creations.map (·.call) := creates_noting p.creates
  obtain ⟨ended, answer⟩ := Prod.mk.inj p.created
  have after : p.creations.map (·.call) ++ [⟨tableFile, p.tableText, p.tableAnswer⟩] = calls := by
    rw [← before, ← answer]
    exact (Prod.mk.inj ended).2
  exact ⟨calls, p, rfl, after.symm ▸ noted⟩

/-- For every sink: the table is made of the hosts that were written, in the order of their names, the
records are those of the same hosts, every other host has one error, and the table has one as the last
where it was refused. -/
theorem runPass_consistent {r : Report} (h : g.runPass sites k s = (.ok r, t)) :
    ∃ cs table, Consistent g sites k s t r cs table := by
  obtain ⟨calls, p, rfl, noted⟩ := exists_noted_trace h
  refine ⟨p.creations, ⟨tableFile, p.tableText, p.tableAnswer⟩, ?_⟩
  exact
    { calls := noted
      hosts := p.models
      texts := creates_made p.creates
      tableName := ⟨rfl, fun c member => tableFile_ne_artifactPath (p.file_of_mem member)⟩
      tableText := p.table
      ordered := by
        have written := p.ordered.filter (·.isWritten)
        exact List.pairwise_map.mpr (written.imp Text.bytes_lt_bytes)
      records := p.artifacts_report
      failures := fun c member => p.failures_report member
      tableRecord := rfl
      tableFailure := by
        refine ⟨p.early ++ p.creations.filterMap (·.failure?), p.diagnostics_report, ?_⟩
        intro d member failure
        rcases List.mem_append.mp member with early | host
        · exact absurd failure (p.kind_of_mem_early early)
        · exact (of_mem_failures host).2 }

/-- A sink that refuses one of two hosts and the table. -/
theorem runPass_consistent_refused :
    let g : Generator := { config := .ofCrate "app", renderer := { runtime := ":: viewbind" } }
    let home := Host.visible "app" [] "Home"
    let other := Host.visible "app" ["ui"] "Other"
    let sites := [home.site 1 "title", other.site 1 "label"]
    let k := MemorySink.sink.refusing ["viewbind/app__Home__Bind.rs", tableFile] (.other "disk full")
    ∃ r t cs table, g.runPass sites k {} = (.ok r, t) ∧ r.artifacts.map (·.host) = ["app::ui::Other"] ∧
      r.diagnostics.length = 2 ∧ r.table = none ∧ Consistent g sites k {} t r cs table := by
  intro g home other sites k
  obtain ⟨r, t, run, facts⟩ := exists_run_of_any (x := g.runPass sites k {})
    (p := fun r => decide (r.artifacts.map (·.host) = ["app::ui::Other"] ∧
      r.diagnostics.length = 2 ∧ r.table = none))
    (by decide +kernel)
  obtain ⟨hosts, reports, table⟩ := of_decide_eq_true facts
  obtain ⟨cs, call, consistent⟩ := runPass_consistent run
  exact ⟨r, t, cs, call, run, hosts, reports, table, consistent⟩

end Generator

end SlotBinding
