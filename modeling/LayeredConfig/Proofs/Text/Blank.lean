import LayeredConfig.Text.Blank
import Mathlib.Data.List.TakeWhile

/-!
# What is left of a trimmed text

Trimming takes blanks away at both ends and nothing else.  Nothing is left of a text of blanks
only; what is left of any other text starts and ends with a character that is not blank.
-/

set_option autoImplicit false

namespace LayeredConfig.Text

variable {text : List Char}

theorem trimEnd_eq_nil_iff : trimEnd text = [] ↔ ∀ c ∈ text, isBlank c = true := by
  rw [trimEnd, List.reverse_eq_nil_iff, List.dropWhile_eq_nil_iff]
  simp only [List.mem_reverse]

theorem trim_eq_nil_iff : trim text = [] ↔ ∀ c ∈ text, isBlank c = true := by
  rw [trim, trimEnd_eq_nil_iff, trimStart]
  constructor
  · intro behind c member
    rw [← List.takeWhile_append_dropWhile (p := isBlank) (l := text)] at member
    rcases List.mem_append.mp member with front | back
    · exact List.mem_takeWhile_imp front
    · exact behind c back
  · intro blank c member
    exact blank c ((List.dropWhile_sublist isBlank).subset member)

/-- A text with blanks at neither end. -/
structure Bare (text : List Char) : Prop where
  first : ∀ c ∈ text.head?, isBlank c = false
  last : ∀ c ∈ text.getLast?, isBlank c = false

theorem first_of_dropWhile (text : List Char) :
    ∀ c ∈ (text.dropWhile isBlank).head?, isBlank c = false := by
  intro c leads
  have visible := List.head?_dropWhile_not isBlank text
  rw [Option.mem_def.mp leads] at visible
  exact visible

theorem exists_trimStart (text : List Char) :
    ∃ front, text = front ++ trimStart text ∧ ∀ c ∈ front, isBlank c = true :=
  ⟨text.takeWhile isBlank, List.takeWhile_append_dropWhile.symm, fun _ => List.mem_takeWhile_imp⟩

theorem exists_trimEnd (text : List Char) :
    ∃ back, text = trimEnd text ++ back ∧ ∀ c ∈ back, isBlank c = true := by
  obtain ⟨front, parts, blank⟩ := exists_trimStart text.reverse
  refine ⟨front.reverse, ?_, fun c member => blank c (List.mem_reverse.mp member)⟩
  rw [trimEnd, ← List.reverse_append, ← trimStart, ← parts, List.reverse_reverse]

theorem exists_trim (text : List Char) :
    ∃ front back, text = front ++ trim text ++ back ∧
      (∀ c ∈ front, isBlank c = true) ∧ (∀ c ∈ back, isBlank c = true) := by
  obtain ⟨front, parts, blank⟩ := exists_trimStart text
  obtain ⟨back, partsToo, blankToo⟩ := exists_trimEnd (trimStart text)
  refine ⟨front, back, ?_, blank, blankToo⟩
  rw [trim, List.append_assoc, ← partsToo, ← parts]

theorem bare_trim (text : List Char) : Bare (trim text) := by
  constructor
  · intro c leads
    obtain ⟨back, parts, -⟩ := exists_trimEnd (trimStart text)
    obtain ⟨rest, starts⟩ := List.head?_eq_some_iff.mp leads
    apply first_of_dropWhile text c
    rw [trim] at starts
    rw [starts] at parts
    rw [← trimStart, parts]
    rfl
  · intro c ends
    rw [trim, trimEnd, List.getLast?_reverse] at ends
    exact first_of_dropWhile _ c ends

/-- What is left of a text when all blanks at its ends are taken away. -/
structure Trims (text item : List Char) : Prop where
  bare : Bare item
  parts : ∃ front back, text = front ++ item ++ back ∧
    (∀ c ∈ front, isBlank c = true) ∧ (∀ c ∈ back, isBlank c = true)

theorem trims_trim (text : List Char) : Trims text (trim text) :=
  ⟨bare_trim text, exists_trim text⟩

theorem trims_trimmed (text : String) : Trims text.toList (trimmed text).toList := by
  rw [trimmed, String.toList_ofList]
  exact trims_trim text.toList

theorem isEmpty_trimmed (text : String) : (trimmed text).isEmpty = text.toList.all isBlank := by
  rw [Bool.eq_iff_iff, String.isEmpty_iff, List.all_eq_true, ← trim_eq_nil_iff, trimmed,
    ← String.toList_inj, String.toList_ofList, String.toList_empty]

end LayeredConfig.Text
