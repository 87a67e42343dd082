import Mathlib.Data.List.DropRight
import SlotBinding.Text.Trim

/-!
# Laws of texts between blanks

`trim_eq_iff`: to trim a text is to find what stands in it between blanks.
-/

namespace SlotBinding.Text

open Unicode (isBlank)

theorem trimChars_eq (cs : List Char) : trimChars cs = (cs.dropWhile isBlank).rdropWhile isBlank := rfl

theorem exists_trimChars (cs : List Char) :
    ∃ before after, cs = before ++ trimChars cs ++ after ∧ ∀ c ∈ before ++ after, isBlank c = true := by
  refine ⟨cs.takeWhile isBlank, (cs.dropWhile isBlank).rtakeWhile isBlank, ?_, ?_⟩
  · rw [trimChars_eq, List.append_assoc, List.rdropWhile_append_rtakeWhile,
      List.takeWhile_append_dropWhile]
  · intro c member
    rcases List.mem_append.mp member with front | back
    · exact List.mem_takeWhile_imp front
    · exact List.mem_rtakeWhile_imp back

theorem bareEnds_trimChars (cs : List Char) : BareEnds (trimChars cs) := by
  rw [trimChars_eq]
  constructor
  · intro c first
    -- What is left after the blanks at the end starts as the whole did.
    obtain ⟨after, split⟩ := List.rdropWhile_prefix isBlank (cs.dropWhile isBlank)
    have head := List.head?_dropWhile_not isBlank cs
    rw [← split, List.head?_append, Option.mem_def.mp first] at head
    simpa using head
  · intro c last
    have nonempty : (cs.dropWhile isBlank).rdropWhile isBlank ≠ [] := by
      intro empty
      rw [empty] at last
      cases last
    have bare := List.rdropWhile_last_not isBlank (cs.dropWhile isBlank) nonempty
    rw [List.getLast?_eq_some_getLast nonempty] at last
    obtain rfl := Option.mem_some_iff.mp last
    exact Bool.eq_false_iff.mpr bare

theorem trimChars_of_pads {before after cs : List Char} (blank : ∀ c ∈ before ++ after, isBlank c = true)
    (bare : BareEnds cs) : trimChars (before ++ cs ++ after) = cs := by
  have front : ∀ c ∈ before, isBlank c = true := fun c member => blank c (List.mem_append_left _ member)
  have back : ∀ c ∈ after, isBlank c = true := fun c member => blank c (List.mem_append_right _ member)
  rw [trimChars, List.append_assoc, List.dropWhile_append_of_pos front]
  cases cs with
  | nil =>
    rw [List.nil_append, List.dropWhile_eq_nil_iff.mpr back]
    rfl
  | cons c rest =>
    have first : ¬isBlank c = true := by simpa using bare.1 c rfl
    have turned : ∀ c ∈ after.reverse, isBlank c = true := fun c member => back c (List.mem_reverse.mp member)
    rw [List.cons_append, List.dropWhile_cons_of_neg first, ← List.cons_append, List.reverse_append,
      List.dropWhile_append_of_pos turned]
    cases same : (c :: rest).reverse with
    | nil => simp at same
    | cons d others =>
      have last : ¬isBlank d = true := by
        have ends : (c :: rest).getLast? = some d := by rw [List.getLast?_eq_head?_reverse, same]; rfl
        simpa using bare.2 d ends
      rw [List.dropWhile_cons_of_neg last, ← same, List.reverse_reverse]

/-- To trim a text is to find what stands in it between blanks. -/
theorem trim_eq_iff {s t : String} : trim s = t ↔ Pads s t ∧ BareEnds t.toList := by
  constructor
  · rintro rfl
    rw [Pads, trim, String.toList_ofList]
    exact ⟨exists_trimChars s.toList, bareEnds_trimChars s.toList⟩
  · rintro ⟨⟨before, after, padded, blank⟩, bare⟩
    rw [trim, padded, trimChars_of_pads blank bare, String.ofList_toList]

theorem pads_self (s : String) : Pads s s := ⟨[], [], by simp, by simp⟩

theorem trim_trim (s : String) : trim (trim s) = trim s :=
  trim_eq_iff.mpr ⟨pads_self _, (trim_eq_iff.mp rfl).2⟩

theorem trim_eq_empty_iff {s : String} : trim s = "" ↔ Blank s := by
  rw [trim_eq_iff]
  constructor
  · rintro ⟨⟨before, after, chars, blanks⟩, -⟩
    rw [Blank, chars]
    simpa using blanks
  · intro blank
    refine ⟨⟨s.toList, [], by simp, by simpa [Blank] using blank⟩, ?_⟩
    simp [BareEnds]

theorem trim_of_pads {padded s : String} (pads : Pads padded s) : trim padded = trim s := by
  obtain ⟨before, after, chars, blanks⟩ := pads
  obtain ⟨front, back, inner, between⟩ := exists_trimChars s.toList
  refine trim_eq_iff.mpr ⟨⟨before ++ front, back ++ after, ?_, ?_⟩, (trim_eq_iff.mp rfl).2⟩
  · rw [chars, trim, String.toList_ofList]
    conv => lhs; rw [inner]
    simp only [List.append_assoc]
  · intro c member
    simp only [List.mem_append] at member blanks between
    rcases member with (first | second) | third | fourth
    · exact blanks c (.inl first)
    · exact between c (.inl second)
    · exact between c (.inr third)
    · exact blanks c (.inr fourth)

theorem replaceChar_eq_empty_iff {old new : Char} {s : String} : replaceChar old new s = "" ↔ s = "" := by
  rw [← String.toList_inj, ← String.toList_inj, replaceChar, String.toList_ofList]
  simp

end SlotBinding.Text
