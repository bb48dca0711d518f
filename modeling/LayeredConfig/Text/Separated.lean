/-!
# Separated text

A text read as parts between separator characters, and the same parts written back.  Writing what
was read gives the text again, and reading what was written gives the parts again when there is at
least one and none holds a separator.
-/

set_option autoImplicit false

namespace LayeredConfig.Text

def extendFirst (c : Char) : List (List Char) → List (List Char)
  | [] => [[c]]
  | part :: parts => (c :: part) :: parts

/-- The parts of a text between separators.  There is always one part more than separators. -/
def split (separator : Char) : List Char → List (List Char)
  | [] => [[]]
  | c :: rest =>
      if c = separator then [] :: split separator rest
      else extendFirst c (split separator rest)

def join (separator : Char) : List (List Char) → List Char
  | [] => []
  | [part] => part
  | part :: next :: parts => part ++ separator :: join separator (next :: parts)

theorem split_ne_nil (separator : Char) (text : List Char) : split separator text ≠ [] := by
  cases text with
  | nil => simp [split]
  | cons c rest =>
      by_cases isSeparator : c = separator
      · simp [split, isSeparator]
      · simp only [split, isSeparator, ↓reduceIte]
        cases split separator rest <;> simp [extendFirst]

theorem join_extendFirst (separator c : Char) (parts : List (List Char)) (nonempty : parts ≠ []) :
    join separator (extendFirst c parts) = c :: join separator parts := by
  match parts, nonempty with
  | [part], _ => simp [extendFirst, join]
  | part :: next :: others, _ => simp [extendFirst, join]

/-- Writing the parts of a text gives the text. -/
theorem join_split (separator : Char) (text : List Char) :
    join separator (split separator text) = text := by
  induction text with
  | nil => simp [split, join]
  | cons c rest ih =>
      by_cases isSeparator : c = separator
      · subst isSeparator
        have nonempty := split_ne_nil c rest
        simp only [split, ↓reduceIte]
        match found : split c rest, nonempty with
        | next :: others, _ =>
            rw [found] at ih
            simp [join, ih]
      · simp only [split, isSeparator, ↓reduceIte]
        rw [join_extendFirst separator c _ (split_ne_nil separator rest), ih]

/-! ## Separators between parts -/

theorem not_mem_of_mem_split {separator : Char} {text part : List Char}
    (member : part ∈ split separator text) : separator ∉ part := by
  induction text generalizing part with
  | nil =>
      rw [split, List.mem_singleton] at member
      rw [member]
      exact List.not_mem_nil
  | cons c rest ih =>
      by_cases same : c = separator
      · rw [split, if_pos same] at member
        rcases List.mem_cons.mp member with rfl | later
        · exact List.not_mem_nil
        · exact ih later
      · rw [split, if_neg same] at member
        obtain ⟨first, more, parts⟩ := List.exists_cons_of_ne_nil (split_ne_nil separator rest)
        rw [parts, extendFirst] at member
        rw [parts] at ih
        rcases List.mem_cons.mp member with rfl | later
        · exact List.not_mem_cons_of_ne_of_not_mem (Ne.symm same) (ih (List.mem_cons_self ..))
        · exact ih (List.mem_cons_of_mem _ later)

theorem split_append (separator : Char) (text rest : List Char) :
    split separator (text ++ separator :: rest) = split separator text ++ split separator rest := by
  induction text with
  | nil => simp [split]
  | cons c text ih =>
      by_cases same : c = separator
      · rw [List.cons_append, split, if_pos same, split, if_pos same, ih, List.cons_append]
      · obtain ⟨first, more, parts⟩ := List.exists_cons_of_ne_nil (split_ne_nil separator text)
        rw [List.cons_append, split, if_neg same, split, if_neg same, ih, parts]
        rfl

theorem split_of_not_mem {separator : Char} {text : List Char} (absent : separator ∉ text) :
    split separator text = [text] := by
  induction text with
  | nil => rfl
  | cons c text ih =>
      obtain ⟨other, further⟩ := not_or.mp (mt List.mem_cons.mpr absent)
      rw [split, if_neg (Ne.symm other), ih further]
      rfl

/-- Reading the parts that were written gives the parts. -/
theorem split_join {separator : Char} {parts : List (List Char)} (nonempty : parts ≠ [])
    (bare : ∀ part ∈ parts, separator ∉ part) : split separator (join separator parts) = parts := by
  match parts, nonempty with
  | [part], _ => exact split_of_not_mem (bare part (List.mem_cons_self ..))
  | part :: next :: others, _ =>
      obtain ⟨bareHere, bareLater⟩ := List.forall_mem_cons.mp bare
      have later := split_join (List.cons_ne_nil next others) bareLater
      rw [join, split_append, split_of_not_mem bareHere, later, List.singleton_append]

/-! ## Texts -/

def splitText (separator : Char) (text : String) : List String :=
  (split separator text.toList).map String.ofList

def joinTexts (separator : Char) (parts : List String) : String :=
  String.ofList (join separator (parts.map String.toList))

theorem not_mem_of_mem_splitText {separator : Char} {text part : String}
    (member : part ∈ splitText separator text) : separator ∉ part.toList := by
  obtain ⟨characters, inText, rfl⟩ := List.mem_map.mp member
  rw [String.toList_ofList]
  exact not_mem_of_mem_split inText

theorem joinTexts_splitText (separator : Char) (text : String) :
    joinTexts separator (splitText separator text) = text := by
  rw [joinTexts, splitText, List.map_map, String.toList_comp_ofList, List.map_id, join_split,
    String.ofList_toList]

theorem splitText_joinTexts {separator : Char} {parts : List String} (nonempty : parts ≠ [])
    (bare : ∀ part ∈ parts, separator ∉ part.toList) :
    splitText separator (joinTexts separator parts) = parts := by
  have written : parts.map String.toList ≠ [] := mt List.map_eq_nil_iff.mp nonempty
  have bareToo : ∀ part ∈ parts.map String.toList, separator ∉ part := List.forall_mem_map.mpr bare
  rw [splitText, joinTexts, String.toList_ofList, split_join written bareToo, List.map_map,
    String.ofList_comp_toList, List.map_id]

end LayeredConfig.Text
