import SlotBinding.Render.Table

/-!
# Names joined for one identifier

The identifier of a binder joins the names above it with two underscores. `joined_injective` says when
the names can be read back; `binderIdent_of_isWord` that names make an identifier at all.
-/

namespace SlotBinding

namespace Unicode

/-! ### Words -/

/-- Whether each range of the first list lies in one of the second; both ascend. -/
def CodeRanges.within (inner : CodeRanges) : CodeRanges → Bool
  | [] => inner.isEmpty
  | range :: more =>
    within (inner.dropWhile fun r => range.1 ≤ r.1 && r.2 ≤ range.2) more

theorem CodeRanges.exists_of_within {inner outer : CodeRanges} (h : inner.within outer = true) :
    ∀ r ∈ inner, ∃ range ∈ outer, range.1 ≤ r.1 ∧ r.2 ≤ range.2 := by
  induction outer generalizing inner with
  | nil =>
    have empty : inner = [] := by simpa [within] using h
    simp [empty]
  | cons range more ih =>
    intro r member
    let p : Nat × Nat → Bool := fun r => range.1 ≤ r.1 && r.2 ≤ range.2
    rw [← List.takeWhile_append_dropWhile (p := p) (l := inner)] at member
    rcases List.mem_append.mp member with here | later
    · have holds : p r = true := List.all_eq_true.mp List.all_takeWhile r here
      exact ⟨range, List.mem_cons_self, by simpa [p] using holds⟩
    · obtain ⟨other, among, bounds⟩ := ih h r later
      exact ⟨other, List.mem_cons_of_mem _ among, bounds⟩

theorem CodeRanges.contains_of_within {inner outer : CodeRanges} (h : inner.within outer = true) {code : Nat}
    (inside : inner.contains code = true) : outer.contains code = true := by
  simp only [CodeRanges.contains, List.any_eq_true, Bool.and_eq_true, decide_eq_true_eq] at *
  obtain ⟨r, member, low, high⟩ := inside
  obtain ⟨range, among, below, above⟩ := CodeRanges.exists_of_within h r member
  exact ⟨range, among, by omega, by omega⟩

theorem isIdentifierContinue_of_start {c : Char} (h : isIdentifierStart c = true) :
    isIdentifierContinue c = true := by
  have tables : identifierStarts.within identifierContinues = true := by decide +kernel
  unfold isIdentifierStart at h
  unfold isIdentifierContinue
  split at h
  · rename_i ascii
    simp only [Bool.or_eq_true] at h
    rw [if_pos ascii]
    rcases h with letter | underscore
    · simp [letter]
    · simp [underscore]
  · rename_i wide
    rw [if_neg wide]
    exact CodeRanges.contains_of_within tables h

theorem not_isAsciiDigit_of_start {c : Char} (h : isIdentifierStart c = true) :
    isAsciiDigit c = false := by
  cases digit : isAsciiDigit c with
  | false => rfl
  | true =>
    obtain ⟨low, high⟩ : 48 ≤ c.toNat ∧ c.toNat ≤ 57 := by
      simpa [isAsciiDigit, Char.le_def, UInt32.le_iff_toNat_le] using digit
    have letter : isAsciiLetter c = false := by
      simp [isAsciiLetter, Char.le_def, UInt32.le_iff_toNat_le]
      omega
    have underscore : c ≠ '_' := by
      rintro rfl
      simp at high
    simp [isIdentifierStart, letter, underscore, show c.toNat < 128 by omega] at h

theorem all_of_isWord {cs : List Char} (h : isWord cs = true) :
    cs.all isIdentifierContinue = true := by
  cases cs with
  | nil => cases h
  | cons c rest =>
    simp only [isWord, Bool.and_eq_true] at h
    rw [List.all_cons, isIdentifierContinue_of_start h.1, h.2]
    rfl

theorem not_mem_of_isWord {c : Char} {cs : List Char} (other : isIdentifierContinue c = false)
    (word : isWord cs = true) : c ∉ cs := by
  intro member
  have own := List.all_eq_true.mp (all_of_isWord word) c member
  rw [other] at own
  cases own

theorem isWord_append {cs ds : List Char} (h : isWord cs = true)
    (more : ds.all isIdentifierContinue = true) : isWord (cs ++ ds) = true := by
  cases cs with
  | nil => cases h
  | cons c rest =>
    simp only [isWord, Bool.and_eq_true] at h
    simp [isWord, h.1, h.2, more]

end Unicode

namespace Identifier

open Unicode (isWord)

theorem plain_of_isWord {s : String} (h : isWord s.toList = true) : plain s = .ok s := by
  cases chars : s.toList with
  | nil => simp [chars, isWord] at h
  | cons c rest =>
    have start : Unicode.isIdentifierStart c = true := by
      rw [chars] at h
      simp only [isWord, Bool.and_eq_true] at h
      exact h.1
    have full : s ≠ "" := by
      rintro rfl
      simp at chars
    unfold plain
    rw [if_neg full, if_neg, if_pos h]
    simp [chars, Unicode.not_isAsciiDigit_of_start start]

theorem behindMark?_of_isWord {s : String} (h : isWord s.toList = true) : behindMark? s = none := by
  unfold behindMark?
  split
  · rename_i rest marked
    have hash : Unicode.isIdentifierContinue '#' = true :=
      List.all_eq_true.mp (Unicode.all_of_isWord h) '#' (by simp [marked])
    exact absurd hash (by decide)
  · rfl

theorem plain_eq_ok_iff {s x : String} : plain s = .ok x ↔ isWord s.toList = true ∧ x = s := by
  constructor
  · intro made
    unfold plain at made
    split at made
    · cases made
    · split at made
      · cases made
      · split at made
        · rename_i word
          exact ⟨word, (Except.ok.inj made).symm⟩
        · cases made
  · rintro ⟨word, rfl⟩
    exact plain_of_isWord word

theorem raw_eq_ok_iff {s x : String} :
    raw s = .ok x ↔ (isWord s.toList = true ∧ s.toList ∉ Spelling.neverRaw) ∧ x = rawMark ++ s := by
  unfold raw
  cases made : plain s with
  | error f =>
    have noWord : ¬isWord s.toList = true := by
      intro word
      rw [plain_of_isWord word] at made
      cases made
    simp [noWord]
  | ok y =>
    obtain ⟨word, rfl⟩ := plain_eq_ok_iff.mp made
    by_cases never : y.toList ∈ Spelling.neverRaw
    · simp [never]
    · simp [never, word, eq_comm]

theorem behindMark?_eq_some_iff {s rest : String} :
    behindMark? s = some rest ↔ s.toList = 'r' :: '#' :: rest.toList := by
  unfold behindMark?
  split
  · rename_i chars marked
    rw [marked]
    constructor
    · rintro same
      rw [← Option.some.inj same, String.toList_ofList]
    · intro same
      have chars : chars = rest.toList := by simpa using same
      rw [chars, String.ofList_toList]
  · rename_i unmarked
    constructor
    · rintro ⟨⟩
    · intro marked
      exact absurd marked (unmarked _)

theorem ofText_eq_ok_iff {s x : String} :
    ofText s = .ok x ↔
      (isWord s.toList = true ∨
        ∃ bare, s.toList = 'r' :: '#' :: bare ∧ isWord bare = true ∧ bare ∉ Spelling.neverRaw) ∧ x = s := by
  unfold ofText
  cases behind : behindMark? s with
  | none =>
    have unmarked (bare : List Char) : s.toList ≠ 'r' :: '#' :: bare := by
      intro same
      have marked : behindMark? s = some (String.ofList bare) := behindMark?_eq_some_iff.mpr (by simpa using same)
      rw [behind] at marked
      cases marked
    dsimp only
    rw [plain_eq_ok_iff]
    simp [unmarked]
  | some rest =>
    have noWord : ¬isWord s.toList = true := by
      intro word
      rw [behindMark?_of_isWord word] at behind
      cases behind
    have marked := behindMark?_eq_some_iff.mp behind
    have whole : rawMark ++ rest = s := by
      apply String.toList_inj.mp
      rw [marked, String.toList_append]
      rfl
    dsimp only
    rw [raw_eq_ok_iff, or_iff_right noWord, marked, whole]
    simp

theorem eq_of_ofText {s x : String} (made : ofText s = .ok x) : x = s := (ofText_eq_ok_iff.mp made).2

/-- An identifier has no character but those of words and the one in the mark of raw identifiers. -/
theorem of_mem_ofText {s x : String} (made : ofText s = .ok x) {c : Char} (member : c ∈ x.toList) :
    c = '#' ∨ Unicode.isIdentifierContinue c = true := by
  obtain ⟨word | ⟨bare, marked, word, -⟩, rfl⟩ := ofText_eq_ok_iff.mp made
  · exact .inr (List.all_eq_true.mp (Unicode.all_of_isWord word) c member)
  · rw [marked] at member
    rcases List.mem_cons.mp member with rfl | member
    · exact .inr (by decide)
    · rcases List.mem_cons.mp member with rfl | inner
      · exact .inl rfl
      · exact .inr (List.all_eq_true.mp (Unicode.all_of_isWord word) c inner)

end Identifier

/-! ### Joined names -/

def Words (names : List String) : Prop := ∀ n ∈ names, Unicode.isWord n.toList = true

instance (names : List String) : Decidable (Words names) :=
  inferInstanceAs (Decidable (∀ n ∈ names, Unicode.isWord n.toList = true))

def joined (names : List String) : String := "__".intercalate names

/-- No name holds two underscores in a row, and none but the last ends in one. -/
def Separable (names : List String) : Prop :=
  (∀ n ∈ names, ¬['_', '_'] <:+: n.toList) ∧ ∀ n ∈ names.dropLast, n.toList.getLast? ≠ some '_'

instance (names : List String) : Decidable (Separable names) :=
  inferInstanceAs (Decidable (_ ∧ _))

theorem toList_joined_cons_cons (m n : String) (rest : List String) :
    (joined (m :: n :: rest)).toList = m.toList ++ '_' :: '_' :: (joined (n :: rest)).toList := by
  rw [joined, String.intercalate_cons_cons]
  simp [joined]

theorem all_joined {names : List String} (words : Words names) :
    (joined names).toList.all Unicode.isIdentifierContinue = true := by
  induction names with
  | nil => simp [joined]
  | cons m rest ih =>
    have front := Unicode.all_of_isWord (words m List.mem_cons_self)
    cases rest with
    | nil => simpa [joined] using front
    | cons n more =>
      have behind := ih fun k member => words k (List.mem_cons_of_mem _ member)
      have underscore : Unicode.isIdentifierContinue '_' = true := by decide
      rw [toList_joined_cons_cons, List.all_append, front, List.all_cons, List.all_cons, behind,
        underscore]
      rfl

theorem eq_nil_of_reaches {a d t rest : List Char} (free : ¬['_', '_'] <:+: a ++ d)
    (ends : (a ++ d).getLast? ≠ some '_') (h : '_' :: '_' :: t = d ++ rest) : d = [] := by
  match d with
  | [] => rfl
  | [c] =>
    obtain rfl : c = '_' := by simpa using (List.cons.inj h).1.symm
    simp at ends
  | c :: c' :: more =>
    simp only [List.cons_append, List.cons.injEq] at h
    obtain ⟨rfl, rfl, _⟩ := h
    exact absurd ⟨a, more, by simp⟩ free

theorem front_unique {a b t u : List Char} (freeA : ¬['_', '_'] <:+: a) (freeB : ¬['_', '_'] <:+: b)
    (endsA : a.getLast? ≠ some '_') (endsB : b.getLast? ≠ some '_')
    (same : a ++ '_' :: '_' :: t = b ++ '_' :: '_' :: u) : a = b ∧ t = u := by
  -- One of the names is longer by `d`, which starts with the underscores behind the other.
  rcases List.append_eq_append_iff.mp same with ⟨d, rfl, reaches⟩ | ⟨d, rfl, reaches⟩
  · obtain rfl := eq_nil_of_reaches freeB endsB reaches
    simpa using reaches
  · obtain rfl := eq_nil_of_reaches freeA endsA reaches
    simpa [eq_comm] using reaches

/-- Separable names are read back from their joined text. -/
theorem joined_injective {as bs : List String} (sepA : Separable as) (sepB : Separable bs)
    (fullA : as ≠ []) (fullB : bs ≠ []) (same : joined as = joined bs) : as = bs := by
  induction as generalizing bs with
  | nil => exact absurd rfl fullA
  | cons a as ih =>
    cases bs with
    | nil => exact absurd rfl fullB
    | cons b bs =>
      have freeA := sepA.1 a List.mem_cons_self
      have freeB := sepB.1 b List.mem_cons_self
      cases as with
      | nil =>
        cases bs with
        | nil => simpa [joined] using same
        | cons n more =>
          -- The one name on the left would have to hold the underscores on the right.
          have text := toList_joined_cons_cons b n more
          rw [← same, joined, String.intercalate_singleton] at text
          exact absurd ⟨_, _, by rw [text, List.append_assoc]; rfl⟩ freeA
      | cons m rest =>
        cases bs with
        | nil =>
          have text := toList_joined_cons_cons a m rest
          rw [same, joined, String.intercalate_singleton] at text
          exact absurd ⟨_, _, by rw [text, List.append_assoc]; rfl⟩ freeB
        | cons n more =>
          have chars := congrArg String.toList same
          rw [toList_joined_cons_cons, toList_joined_cons_cons] at chars
          have endsA := sepA.2 a List.mem_cons_self
          have endsB := sepB.2 b List.mem_cons_self
          obtain ⟨first, others⟩ := front_unique freeA freeB endsA endsB chars
          have tailA : Separable (m :: rest) :=
            ⟨fun k member => sepA.1 k (List.mem_cons_of_mem _ member),
              fun k member => sepA.2 k (List.mem_cons_of_mem _ member)⟩
          have tailB : Separable (n :: more) :=
            ⟨fun k member => sepB.1 k (List.mem_cons_of_mem _ member),
              fun k member => sepB.2 k (List.mem_cons_of_mem _ member)⟩
          rw [String.toList_inj.mp first,
            ih tailA tailB (List.cons_ne_nil _ _) (List.cons_ne_nil _ _) (String.toList_inj.mp others)]

namespace HostModel

def localSegments (m : HostModel) : List String := m.modulePath ++ [m.name]

theorem localSegments_ne_nil (m : HostModel) : m.localSegments ≠ [] := by simp [localSegments]

theorem mangledName_of_words {m : HostModel} (words : Words m.localSegments) :
    m.mangledName =
      (Identifier.behindMark? m.crateName).getD m.crateName ++ "__" ++ joined m.localSegments := by
  have bare : m.localSegments.map (fun s => (Identifier.behindMark? s).getD s) = m.localSegments := by
    refine (List.map_congr_left ?_).trans (List.map_id _)
    intro s member
    simp [Identifier.behindMark?_of_isWord (words s member)]
  unfold mangledName
  rw [show m.segments = m.crateName :: m.localSegments from rfl, List.map_cons, bare,
    String.intercalate_cons_of_ne_nil m.localSegments_ne_nil]
  rfl

theorem binderIdent_of_words {m : HostModel} (crate : Unicode.isWord m.crateName.toList = true)
    (words : Words m.localSegments) :
    m.binderIdent = .ok (m.crateName ++ "__" ++ joined m.localSegments ++ "__Bind") := by
  have word : Unicode.isWord (m.crateName ++ "__" ++ joined m.localSegments ++ "__Bind").toList := by
    simp only [String.toList_append, List.append_assoc]
    apply Unicode.isWord_append crate
    rw [List.all_append, List.all_append, all_joined words]
    decide
  rw [binderIdent, mangledName_of_words words, Identifier.behindMark?_of_isWord crate,
    Option.getD_none, Identifier.ofText, Identifier.behindMark?_of_isWord word,
    Identifier.plain_of_isWord word]

theorem binderIdent_eq_iff {a b : HostModel} {x y : String} (crate : a.crateName = b.crateName)
    (wordsA : Words a.localSegments) (wordsB : Words b.localSegments) (ha : a.binderIdent = .ok x)
    (hb : b.binderIdent = .ok y) : x = y ↔ joined a.localSegments = joined b.localSegments := by
  rw [Identifier.eq_of_ofText ha, Identifier.eq_of_ofText hb, mangledName_of_words wordsA,
    mangledName_of_words wordsB, crate]
  simp

theorem binderIdent_ne {a b : HostModel} {x y : String} (crate : a.crateName = b.crateName)
    (wordsA : Words a.localSegments) (wordsB : Words b.localSegments)
    (sepA : Separable a.localSegments) (sepB : Separable b.localSegments)
    (different : a.qualifiedName ≠ b.qualifiedName) (ha : a.binderIdent = .ok x)
    (hb : b.binderIdent = .ok y) : x ≠ y := by
  intro same
  apply different
  have names : a.modulePath ++ [a.name] = b.modulePath ++ [b.name] :=
    joined_injective sepA sepB a.localSegments_ne_nil b.localSegments_ne_nil
      ((binderIdent_eq_iff crate wordsA wordsB ha hb).mp same)
  rw [qualifiedName, qualifiedName, crate, names]

theorem artifactPath_ok {m : HostModel} {file : String} (h : m.artifactPath = .ok file) :
    ∃ x, m.binderIdent = .ok x ∧ file = artifactDir ++ "/" ++ (x ++ ".rs") := by
  unfold artifactPath artifactFile at h
  cases ident : m.binderIdent with
  | error f => rw [ident] at h; cases h
  | ok x =>
    rw [ident] at h
    exact ⟨x, rfl, (Except.ok.inj h).symm⟩

theorem artifactPath_of_binderIdent {m : HostModel} {x : String} (ident : m.binderIdent = .ok x) :
    m.artifactPath = .ok (artifactDir ++ "/" ++ (x ++ ".rs")) := by
  rw [artifactPath, artifactFile, ident]
  rfl

theorem artifactPath_inj {a b : HostModel} {file : String} (pathA : a.artifactPath = .ok file)
    (pathB : b.artifactPath = .ok file) : a.artifactFile = b.artifactFile := by
  obtain ⟨x, identX, same⟩ := artifactPath_ok pathA
  obtain ⟨y, identY, other⟩ := artifactPath_ok pathB
  obtain rfl : x = y := by simpa [same] using other
  rw [artifactFile, artifactFile, identX, identY]

end HostModel

end SlotBinding
