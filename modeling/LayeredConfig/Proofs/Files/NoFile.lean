import LayeredConfig.Proofs.Files.Growth

/-!
# Paths that lead to no file

A path leads to a file if the last place on it holds one.  A directory is no file, nor is a link
that leads nowhere.  A path with a slash at its end asks for a directory and never leads to a file,
whatever is in the tree; so a base directory alone, with no name under it, is never read.
-/

set_option autoImplicit false

namespace LayeredConfig

namespace Text

theorem split_append_separator (separator : Char) (text : List Char) :
    ∃ first more, split separator (text ++ [separator]) = first :: more ∧
      more.getLast? = some [] := by
  obtain ⟨first, more, parts⟩ := List.exists_cons_of_ne_nil (split_ne_nil separator text)
  refine ⟨first, more ++ [[]], ?_, List.getLast?_concat⟩
  rw [split_append, parts]
  rfl

end Text

namespace Files

/-- Names that ask for a directory: none, or a last one that stands for the directory itself. -/
def AsksDirectory (names : List String) : Prop :=
  names = [] ∨ names.getLast? = some sameDirectory

theorem AsksDirectory.rest {name : String} {rest : List String}
    (asks : AsksDirectory (name :: rest)) (other : name ≠ sameDirectory) :
    rest.getLast? = some sameDirectory := by
  rcases asks with empty | last
  · cases empty
  · cases rest with
    | nil => exact absurd (Option.some.inj last) other
    | cons next more => rwa [List.getLast?_cons_cons] at last

theorem AsksDirectory.tail {name : String} {rest : List String}
    (asks : AsksDirectory (name :: rest)) : AsksDirectory rest := by
  rcases asks with empty | last
  · cases empty
  · cases rest with
    | nil => exact .inl rfl
    | cons next more =>
        rw [List.getLast?_cons_cons] at last
        exact .inr last

theorem asksDirectory_pathNames {path : String} {names : List Char}
    (slashed : path.toList = names ++ ['/']) : AsksDirectory (pathNames path) := by
  obtain ⟨first, more, parts, last⟩ := Text.split_append_separator '/' names
  have lastEmpty : (Text.splitText '/' path).getLast? = some "" := by
    rw [Text.splitText, slashed, parts, List.getLast?_map]
    cases more with
    | nil => cases last
    | cons next others =>
        rw [List.getLast?_cons_cons, last]
        rfl
  unfold pathNames
  simp only [lastEmpty, true_and]
  split_ifs with named
  · right
    exact List.getLast?_concat
  · left
    exact Decidable.not_not.mp named

end Files

open Files

namespace FileTree

variable {tree : FileTree}

theorem isFile_iff {path : String} :
    tree.isFile path = true ↔ ∃ place bytes, tree.find path = .ok (.taken place (.file bytes)) := by
  unfold isFile
  constructor
  · intro found
    split at found
    · exact ⟨_, _, by assumption⟩
    · cases found
  · rintro ⟨place, bytes, found⟩
    rw [found]

theorem walk_ne_file {follow : Place → List String → Except Fault Spot}
    (followed : ∀ here names place bytes, names.getLast? = some sameDirectory →
      follow here names ≠ .ok (.taken place (.file bytes)))
    (names : List String) (here place : Place) (bytes : List UInt8) (asks : AsksDirectory names) :
    tree.walk follow here names ≠ .ok (.taken place (.file bytes)) := by
  intro found
  induction names generalizing here with
  | nil => cases found
  | cons name rest ih =>
      cases strides_of_walk found with
      | stays same onward => exact ih here asks.tail onward
      | up other same onward => exact ih here.tail asks.tail onward
      | file plain there last =>
          have asked := asks.rest plain.notHere
          rw [last] at asked
          cases asked
      | directory plain there onward => exact ih (name :: here) asks.tail onward
      | @link target spot plain there linked =>
          have asked := asks.rest plain.notHere
          have stillAsked : (pathNames target ++ rest).getLast? = some sameDirectory := by
            rw [List.getLast?_append, asked, Option.some_or]
          exact followed _ _ _ _ stillAsked linked

theorem walkOver_ne_file (links : Nat) (here : Place) (names : List String)
    (asks : AsksDirectory names) (place : Place) (bytes : List UInt8) :
    tree.walkOver links here names ≠ .ok (.taken place (.file bytes)) := by
  induction links generalizing here names place bytes with
  | zero => exact walk_ne_file (fun _ _ _ _ _ none => by cases none) names here place bytes asks
  | succ links ih =>
      refine walk_ne_file ?_ names here place bytes asks
      intro here names place bytes last
      exact ih here names (.inr last) place bytes

/-- A path that ends in a slash leads to no file. -/
theorem isFile_of_slash {path : String} {names : List Char}
    (slashed : path.toList = names ++ ['/']) : tree.isFile path = false := by
  rw [← Bool.not_eq_true, isFile_iff]
  rintro ⟨place, bytes, found⟩
  unfold find at found
  split_ifs at found
  · exact walkOver_ne_file _ _ _ (asksDirectory_pathNames slashed) _ _ found
  · exact walkOver_ne_file _ _ _ (asksDirectory_pathNames slashed) _ _ found

theorem isFile_empty : tree.isFile "" = false := by
  have missing : tree.find "" = .error .notFound := if_pos rfl
  rw [isFile, missing]

/-- A directory with no name under it is no file. -/
theorem isFile_joinPath_empty (directory : String) :
    tree.isFile (joinPath directory "") = false := by
  unfold joinPath
  split_ifs with alone slashed
  · exact isFile_empty
  · obtain ⟨names, ends⟩ := List.getLast?_eq_some_iff.mp slashed
    have slash : (directory ++ "").toList = names ++ ['/'] := by
      rw [String.append_empty, ends]
    exact isFile_of_slash slash
  · have slash : (directory ++ "/" ++ "").toList = directory.toList ++ ['/'] := by
      rw [String.append_empty, String.toList_append]
      rfl
    exact isFile_of_slash slash

end FileTree

end LayeredConfig
