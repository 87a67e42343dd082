import SlotBinding.Proofs.LegibleTokens
import SlotBinding.Proofs.NameFaults

/-!
# The path of a host

A scan takes the mark of raw identifiers off the names of modules and structs. The path of a host puts it back where
the parser takes the name for a keyword. `typePath_of_scan`: this gives an identifier for every name but `gen`, which
is a keyword of the edition 2024 and none of the parser.
-/

namespace SlotBinding

open Files (Path Tree)
open Unicode (isWord isIdentifierStart isIdentifierContinue)

namespace Edition

def keywords : List String :=
  ["_", "as", "async", "await", "break", "const", "continue", "crate", "dyn", "else", "enum", "extern", "false",
   "fn", "for", "if", "impl", "in", "let", "loop", "match", "mod", "move", "mut", "pub", "ref", "return", "self",
   "Self", "static", "struct", "super", "trait", "true", "type", "unsafe", "use", "where", "while",
   -- reserved
   "abstract", "become", "box", "do", "final", "gen", "macro", "override", "priv", "try", "typeof", "unsized",
   "virtual", "yield"]

theorem mem_keywords_iff {w : String} : w ∈ keywords ↔ w ∈ Syntax.keywords ∨ w = "gen" := by
  have known : ∀ w ∈ keywords, w ∈ Syntax.keywords ∨ w = "gen" := by decide
  have others : ∀ w ∈ Syntax.keywords, w ∈ keywords := by decide
  refine ⟨known w, ?_⟩
  rintro (own | rfl)
  · exact others w own
  · decide

def IsIdentifier (text : String) : Prop := Spelled text ∧ text ∉ keywords

end Edition

namespace Spelling

variable {cs : List Char}

theorem literal_of_isWord (word : isWord cs = true) : literal cs = none := by
  have quoted : quotedLiteral cs = none := by
    cases read : quotedLiteral cs with
    | none => rfl
    | some found =>
      obtain ⟨front, q, rest, rfl, -, quote⟩ := quotes_of_quotedLiteral read
      have quotes : ['"', '\''].all (fun q => !isIdentifierContinue q) = true := by decide
      have other : isIdentifierContinue q = false := by simpa using List.all_eq_true.mp quotes q quote
      exact absurd (by simp) (Unicode.not_mem_of_isWord other word)
  cases cs with
  | nil => cases word
  | cons c rest =>
    have start : isIdentifierStart c = true := by
      simp only [isWord, Bool.and_eq_true] at word
      exact word.1
    rw [literal, quoted, numberLiteral_of_start start]
    rfl

theorem punct_of_start {c : Char} (start : isIdentifierStart c = true) (rest : List Char) :
    punct (c :: rest) = none := by
  cases read : punct (c :: rest) with
  | none => rfl
  | some found =>
    obtain ⟨parts, mark, -⟩ := of_punct_ok read
    obtain rfl := (List.cons.inj parts).1
    exact absurd mark (apart_of_start start).2

theorem word_of_isWord (word : isWord cs = true) : Spelling.word cs = some (cs, []) := by
  -- Each beginning of a literal has a character that no word has.
  have beginnings : literalBeginnings.all (fun start => start.any fun c => !isIdentifierContinue c) = true := by
    decide
  have plain : (literalBeginnings.any fun start => start.isPrefixOf cs) = false := by
    rw [List.any_eq_false]
    intro start among begins
    obtain ⟨c, member, other⟩ := List.any_eq_true.mp (List.all_eq_true.mp beginnings start among)
    exact Unicode.not_mem_of_isWord (by simpa using other) word ((List.isPrefixOf_iff_prefix.mp begins).subset member)
  have hash : isIdentifierContinue '#' = false := by decide
  have unmarked (rest : List Char) : cs ≠ 'r' :: '#' :: rest := by
    rintro rfl
    exact absurd (by simp) (Unicode.not_mem_of_isWord hash word)
  have bare : bareWord (cs ++ []) = some (cs, []) := bareWord_of_isWord word (by simp)
  rw [List.append_nil] at bare
  rw [Spelling.word, plain, if_neg (by simp), ← bare]
  unfold anyWord
  split
  · rename_i rest
    exact absurd rfl (unmarked rest)
  · rfl

end Spelling

theorem Token.ofString?_of_isWord {s : String} (word : isWord s.toList = true) :
    ofString? s = some [.word .first s] := by
  have literal := Spelling.literal_of_isWord word
  have read := Spelling.word_of_isWord word
  unfold ofString? ofChars?
  cases chars : s.toList with
  | nil =>
    rw [chars] at word
    cases word
  | cons c rest =>
    rw [chars] at word literal read
    have start : isIdentifierStart c = true := by
      simp only [isWord, Bool.and_eq_true] at word
      exact word.1
    have unmarked : c ≠ '\ufeff' := by
      rintro rfl
      exact absurd start (by decide +kernel)
    have leaf : Reading.step ⟨c :: rest, .first, [], []⟩ c rest =
        some ⟨[], Position.first.advance (c :: rest), [], [.word .first s]⟩ := by
      rw [Reading.step_of_start rfl start, Reading.leaf, literal]
      simp only [Spelling.punct_of_start start, read]
      rw [← chars, String.ofList_toList]
      rfl
    split
    · rename_i mark
      exact absurd (List.cons.inj mark).1 unmarked
    · rw [ofCharsAt?, List.length_cons, Reading.run]
      simp only [leaf]
      rfl

namespace Identifier

variable {s name seg : String}

theorem spelled?_of_isWord (word : isWord s.toList = true) :
    spelled? s = if Syntax.isName s then some s else none := by
  rw [spelled?, Token.ofString?_of_isWord word]

theorem behindMark?_rawMark (s : String) : behindMark? (rawMark ++ s) = some s := by
  rw [behindMark?_eq_some_iff, String.toList_append]
  rfl

/-- The segment of a path says the name, with the mark of raw identifiers if the name is a keyword, and it is an
identifier. `gen` is not marked, and no identifier. -/
structure Says (seg name : String) : Prop where
  plain : plainName seg = name
  marked : (behindMark? seg).isSome = true ↔ name ∈ Edition.keywords ∧ name ≠ "gen"
  identifier : Edition.IsIdentifier seg ↔ name ≠ "gen"

theorem says_of_isName (segment : Segment name) (own : Syntax.isName name = true) : Says name name := by
  have free : name ∉ Syntax.keywords := by simpa [Syntax.isName] using own
  have unmarked := behindMark?_of_isWord segment.word
  refine ⟨plainName_of_isWord segment.word, ?_, ?_⟩
  · rw [unmarked, Edition.mem_keywords_iff, or_iff_right free]
    simp
  · have keyword : name ∈ Edition.keywords ↔ name = "gen" := by rw [Edition.mem_keywords_iff, or_iff_right free]
    rw [Edition.IsIdentifier, and_iff_right (.inl segment.word), keyword]

theorem says_raw (segment : Segment name) (keyword : Syntax.isName name = false) : Says (rawMark ++ name) name := by
  have member : name ∈ Syntax.keywords := by simpa [Syntax.isName] using keyword
  have other : name ≠ "gen" := by
    rintro rfl
    exact absurd member (by decide)
  have chars : (rawMark ++ name).toList = 'r' :: '#' :: name.toList :=
    behindMark?_eq_some_iff.mp (behindMark?_rawMark name)
  refine ⟨by simp [plainName, chars], ?_, ?_⟩
  · rw [behindMark?_rawMark, Edition.mem_keywords_iff]
    simp [member, other]
  · have unmarked : ∀ w ∈ Edition.keywords, behindMark? w = none := by decide
    have free : rawMark ++ name ∉ Edition.keywords := by
      intro known
      have found := unmarked _ known
      rw [behindMark?_rawMark] at found
      cases found
    exact iff_of_true ⟨.inr ⟨name.toList, chars, segment.word, segment.allowed⟩, free⟩ other

theorem exists_says (segment : Segment name) : ∃ seg, ofSegment name = .ok seg ∧ Says seg name := by
  unfold ofSegment
  rw [spelled?_of_isWord segment.word]
  cases own : Syntax.isName name with
  | true => exact ⟨name, rfl, says_of_isName segment own⟩
  | false =>
    exact ⟨rawMark ++ name, raw_eq_ok_iff.mpr ⟨⟨segment.word, segment.allowed⟩, rfl⟩, says_raw segment own⟩

end Identifier

/-! ### Paths -/

namespace HostModel

open Identifier (Segment Says)

theorem exists_typePath {m : HostModel} (segments : ∀ s ∈ m.localSegments, Segment s) :
    ∃ path, m.typePath = .ok (" :: ".intercalate ("crate" :: path)) ∧
      List.Forall₂ (fun name seg => Says seg name) m.localSegments path := by
  obtain ⟨path, made, each⟩ := exists_mapM_forall₂ fun s member => Identifier.exists_says (segments s member)
  refine ⟨path, ?_, each⟩
  rw [typePath, pathSegments, show m.modulePath ++ [m.name] = m.localSegments from rfl, made]
  rfl

end HostModel

namespace FieldDeclaration

variable {t : Tree} {root : Path}

def names (d : FieldDeclaration t root) : List String := d.levels.map (·.decl.name) ++ [d.decl.name]

theorem localSegments_hostOf (d : FieldDeclaration t root) (crateName : String) :
    (HostModel.ofHost (Scan.hostOf crateName d.context d.decl)).localSegments = d.names.map plainName := by
  have path : d.context.path = d.levels.map fun l => plainName l.decl.name := Scan.path_within d.way
  rw [names, List.map_append, List.map_map]
  exact congrArg (· ++ [plainName d.decl.name]) path

end FieldDeclaration

/-- Every host that a scan records has a path from the crate root, of one segment for each name in the source. -/
theorem typePath_of_scan {levels : Nat} {t : Tree} {crateName : String} {root : Path} {out : ScanOutput}
    (scanned : scanCrate levels t crateName root = some out) {site : Site} (among : site ∈ out.sites)
    {host : Host} {member : Member} {type : List Token} {access : Access}
    (element : site.element = .field host member type access) :
    ∃ (d : FieldDeclaration t root) (path : List String),
      d.site (Scan.pathCrateName crateName) = site ∧
      host.modulePath ++ [host.name] = d.names.map plainName ∧
      (HostModel.ofHost host).typePath = .ok (" :: ".intercalate ("crate" :: path)) ∧
      List.Forall₂ (fun name seg => Identifier.Says seg name) (host.modulePath ++ [host.name]) path := by
  obtain ⟨d, own⟩ := exists_site scanned among element
  obtain rfl : Scan.hostOf (Scan.pathCrateName crateName) d.context d.decl = host := by
    have fields := element
    rw [← own] at fields
    exact (Element.field.inj fields).1
  obtain ⟨path, typed, each⟩ := HostModel.exists_typePath (d.segments (Scan.pathCrateName crateName))
  exact ⟨d, path, own, d.localSegments_hostOf (Scan.pathCrateName crateName), typed, each⟩

def Site.isAt (names : List String) (path : String) (site : Site) : Bool :=
  match site.element with
  | .field host _ _ _ =>
    host.modulePath ++ [host.name] == names && (HostModel.ofHost host).typePath.toOption == some path
  | .other _ _ => false

theorem Site.of_isAt {names : List String} {path : String} {site : Site} (at' : site.isAt names path = true) :
    ∃ host member type access, site.element = .field host member type access ∧
      host.modulePath ++ [host.name] = names ∧ (HostModel.ofHost host).typePath = .ok path := by
  unfold isAt at at'
  split at at'
  · rename_i host member type access element
    rw [Bool.and_eq_true, beq_iff_eq, beq_iff_eq] at at'
    exact ⟨host, member, type, access, element, at'.1, eq_ok_of_toOption at'.2⟩
  · cases at'

/-- Names that must be raw in the source come out raw. -/
theorem typePath_of_keywords :
    let t := Tree.ofList [("src/lib.rs", .file (.text
      "pub mod r#type \x7b pub mod r#async \x7b pub struct r#yield \x7b #[bind(1)] pub x: L \x7d \x7d \x7d"))]
    ∃ out, scanCrate 1 t "app" "src/lib.rs" = some out ∧
      ∃ site ∈ out.sites, ∃ host member type access, site.element = .field host member type access ∧
        host.modulePath ++ [host.name] = ["type", "async", "yield"] ∧
        (HostModel.ofHost host).typePath = .ok "crate :: r#type :: r#async :: r#yield" ∧
        ∃ (d : FieldDeclaration t "src/lib.rs") (path : List String), d.site "app" = site ∧
          (HostModel.ofHost host).typePath = .ok (" :: ".intercalate ("crate" :: path)) ∧
          List.Forall₂ (fun name seg => Identifier.Says seg name) ["type", "async", "yield"] path := by
  intro t
  have recorded : (scanCrate 1 t "app" "src/lib.rs").any (fun out =>
      out.sites.any (·.isAt ["type", "async", "yield"] "crate :: r#type :: r#async :: r#yield")) = true := by
    decide +kernel
  obtain ⟨out, scanned, found⟩ := (Option.any_eq_true _ _).mp recorded
  obtain ⟨site, among, at'⟩ := List.any_eq_true.mp found
  obtain ⟨host, member, type, access, element, names, typed⟩ := Site.of_isAt at'
  obtain ⟨d, path, own, -, same, each⟩ := typePath_of_scan scanned among element
  have crate : Scan.pathCrateName "app" = "app" := by decide +kernel
  rw [crate] at own
  rw [names] at each
  exact ⟨out, scanned, site, among, host, member, type, access, element, names, typed, d, path, own, same, each⟩

/-- `gen` is a keyword, and the path of a struct in a module of this name has it without a mark. -/
theorem typePath_of_gen :
    "gen" ∈ Edition.keywords ∧ ¬Edition.IsIdentifier "gen" ∧
    ∃ out, scanCrate 1 (Tree.ofList [("src/lib.rs", .file (.text
        "pub mod r#gen \x7b pub struct H \x7b #[bind(1)] pub x: L \x7d \x7d"))]) "app" "src/lib.rs" = some out ∧
      ∃ site ∈ out.sites, ∃ host member type access, site.element = .field host member type access ∧
        host.modulePath ++ [host.name] = ["gen", "H"] ∧
        (HostModel.ofHost host).typePath = .ok "crate :: gen :: H" := by
  have keyword : "gen" ∈ Edition.keywords := by decide
  have recorded : (scanCrate 1 (Tree.ofList [("src/lib.rs", .file (.text
      "pub mod r#gen \x7b pub struct H \x7b #[bind(1)] pub x: L \x7d \x7d"))]) "app" "src/lib.rs").any (fun out =>
      out.sites.any (·.isAt ["gen", "H"] "crate :: gen :: H")) = true := by
    decide +kernel
  obtain ⟨out, scanned, found⟩ := (Option.any_eq_true _ _).mp recorded
  obtain ⟨site, among, at'⟩ := List.any_eq_true.mp found
  exact ⟨keyword, fun legal => legal.2 keyword, out, scanned, site, among, Site.of_isAt at'⟩

end SlotBinding
