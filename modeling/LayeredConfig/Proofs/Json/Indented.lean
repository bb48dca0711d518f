import LayeredConfig.Environment
import LayeredConfig.Proofs.Json.RoundTrip

/-!
# Reading indented objects

An object of strings that is printed on indented lines is read back with all its members.  Such a
text has blanks where the compact one has none: before a key, before a value and before the closing
brace.  A reader passes over the blanks in front of what it reads.
-/

set_option autoImplicit false

namespace LayeredConfig.Json

/-! ## Blanks -/

section Blanks

variable {fuel depth : Nat} {c : Char} (blank : isSpace c = true) (text : List Char)

include blank

theorem skipSpace_blank : skipSpace (c :: text) = skipSpace text :=
  List.dropWhile_cons_of_pos blank

theorem readValue_blank : readValue fuel depth (c :: text) = readValue fuel depth text := by
  cases fuel with
  | zero => rfl
  | succ fuel => rw [readValue, readValue, skipSpace_blank blank]

theorem readEntries_blank : readEntries fuel depth (c :: text) = readEntries fuel depth text := by
  cases fuel with
  | zero => rfl
  | succ fuel => rw [readEntries, readEntries, skipSpace_blank blank]

end Blanks

/-! ## Indented members -/

theorem indentedEntry_append (entry : String × String) (rest : List Char) :
    indentedEntry entry ++ rest =
      '\n' :: ' ' :: ' ' :: (quoted entry.1 ++ ':' :: ' ' :: (quoted entry.2 ++ rest)) := by
  simp [indentedEntry]

/-- The first key is read as if it stood at the start of the text. -/
theorem readEntries_indentedEntry (fuel depth : Nat) (entry : String × String)
    (rest : List Char) :
    readEntries fuel depth (indentedEntry entry ++ rest) =
      readEntries fuel depth (quoted entry.1 ++ ':' :: ' ' :: (quoted entry.2 ++ rest)) := by
  rw [indentedEntry_append, readEntries_blank rfl, readEntries_blank rfl, readEntries_blank rfl]

theorem readValue_indentedValue (fuel depth : Nat) (value : String) (rest : List Char) :
    readValue (fuel + 1) depth (' ' :: (quoted value ++ rest)) = some (.text value, rest) := by
  rw [readValue_blank rfl, readValue_quoted]

/-- By induction on the members behind the first one: each ends at its comma, and the last one at
the line with the brace. -/
theorem readEntries_indented (entry : String × String) (entries : List (String × String))
    (fuel depth : Nat) (rest : List Char) :
    readEntries (fuel + entries.length + 2) depth
        (indentedEntry entry ++ (indentedEntries entries ++ '\n' :: '}' :: rest)) =
      some ((entry :: entries).map fun entry => (entry.1, .text entry.2), rest) := by
  induction entries generalizing entry with
  | nil =>
      rw [readEntries_indentedEntry]
      exact readEntries_last (readValue_indentedValue _ depth entry.2 _) rfl
  | cons next entries ih =>
      rw [readEntries_indentedEntry, indentedEntries, List.cons_append, List.append_assoc]
      exact readEntries_more (readValue_indentedValue _ depth entry.2 _) (ih next)

theorem length_le_indentedEntries (entries : List (String × String)) :
    entries.length ≤ (indentedEntries entries).length := by
  induction entries with
  | nil => exact Nat.le_refl 0
  | cons entry entries ih =>
      rw [indentedEntries, List.length_cons, List.length_cons, List.length_append]
      omega

section Object

variable {environment : Environment} (rest : List Char)

theorem printIndented_cons {entry : String × String} {entries : List (String × String)}
    (listed : environment.entries = entry :: entries) :
    printIndented environment ++ rest =
      '{' :: (indentedEntry entry ++ (indentedEntries entries ++ '\n' :: '}' :: rest)) := by
  simp [printIndented, listed]

theorem readValue_printIndented {fuel : Nat} (depth : Nat)
    (enough : environment.entries.length + 2 ≤ fuel) :
    readValue fuel (depth + 1) (printIndented environment ++ rest) =
      some (.map environment.document.entries, rest) := by
  have members : environment.document.entries =
      environment.entries.map fun entry => (entry.1, .text entry.2) := rfl
  have ordered := orderEntries_of_ordered environment.document.ordered
  obtain ⟨fuel, rfl⟩ := Nat.exists_eq_add_of_le' enough
  rw [members] at ordered ⊢
  cases listed : environment.entries with
  | nil =>
      rw [printIndented, listed]
      exact readValue_empty.2
  | cons entry entries =>
      rw [listed] at ordered
      have read := readEntries_indented entry entries fuel depth rest
      rw [readEntries_indentedEntry] at read
      have opens := congrArg skipSpace
        (indentedEntry_append entry (indentedEntries entries ++ '\n' :: '}' :: rest))
      have whole := readValue_object opens read
      rwa [ordered, ← printIndented_cons rest listed] at whole

/-- The indented text of an environment is one object, with the variables for its members. -/
theorem parse?_printIndented (blank : skipSpace rest = []) :
    parse? (printIndented environment ++ rest) = some (.map environment.document.entries) := by
  have enough :
      environment.entries.length + 2 ≤ 2 * (printIndented environment ++ rest).length + 2 := by
    cases listed : environment.entries with
    | nil => exact Nat.le_add_left ..
    | cons entry entries =>
        have short := length_le_indentedEntries entries
        rw [printIndented_cons rest listed]
        simp only [List.length_cons, List.length_append]
        omega
  rw [parse?, maxDepth, readValue_printIndented rest 126 enough]
  simp only [blank, List.isEmpty_nil, ↓reduceIte]

end Object

end LayeredConfig.Json
