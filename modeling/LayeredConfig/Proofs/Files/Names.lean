import LayeredConfig.Proofs.Files.CopyPath
import LayeredConfig.Proofs.Files.Growth

/-!
# The names of a place

The names on the way to a place hold no slash and are not empty, since they are parts of paths.  So
the one absolute path of a place tells the place, and two places never have one path.
-/

set_option autoImplicit false

namespace LayeredConfig

namespace Files

/-! ## Paths of places -/

/-- A place that is reached by names. -/
def Place.Named (place : Place) : Prop :=
  ∀ name ∈ place, IsName name

theorem Place.Named.tail {place : Place} (named : place.Named) : Place.Named place.tail :=
  fun name member => named name (List.mem_of_mem_tail member)

theorem Place.named_nil : Place.Named [] :=
  List.forall_mem_nil _

theorem Place.Named.cons {name : String} {place : Place} (isName : IsName name)
    (named : place.Named) : Place.Named (name :: place) :=
  List.forall_mem_cons.mpr ⟨isName, named⟩

/-- The names of a place below the root, each behind a slash. -/
def Place.slashed (place : Place) : String :=
  place.reverse.foldl (fun path name => path ++ "/" ++ name) ""

theorem Place.slashed_cons (name : String) (place : Place) :
    Place.slashed (name :: place) = place.slashed ++ "/" ++ name := by
  rw [slashed, List.reverse_cons, List.foldl_append]
  rfl

theorem Place.path_of_ne_root {place : Place} (below : place ≠ []) :
    place.path = place.slashed := by
  cases place with
  | nil => exact absurd rfl below
  | cons name rest => rfl

theorem Place.splitText_slashed {place : Place} (named : place.Named) :
    Text.splitText '/' place.slashed = "" :: place.reverse := by
  induction place with
  | nil => rfl
  | cons name place ih =>
      obtain ⟨isName, others⟩ := List.forall_mem_cons.mp named
      rw [slashed_cons, splitText_append_slash, ih others, isName.splitText, List.reverse_cons,
        List.cons_append]

theorem Place.directoryNames_path {place : Place} (named : place.Named) :
    directoryNames place.path = place.reverse := by
  cases place with
  | nil => decide
  | cons name rest =>
      have kept : ∀ part ∈ (name :: rest).reverse, (!part.isEmpty) = true := by
        intro part member
        simpa using (named part (List.mem_reverse.mp member)).nonempty
      rw [path_of_ne_root (List.cons_ne_nil name rest), directoryNames, splitText_slashed named,
        List.filter_cons_of_neg (by decide), List.filter_eq_self.mpr kept]

/-- The path of a place tells the place. -/
theorem Place.path_injective {place other : Place} (named : place.Named) (namedToo : other.Named)
    (same : place.path = other.path) : place = other := by
  have names := directoryNames_path named
  rw [same, directoryNames_path namedToo] at names
  exact (List.reverse_inj.mp names).symm

theorem Place.isAbsolute_path (place : Place) : isAbsolute place.path = true := by
  cases place with
  | nil => decide
  | cons name rest =>
      rw [path_of_ne_root (List.cons_ne_nil name rest)]
      induction rest generalizing name with
      | nil =>
          rw [slashed_cons, isAbsolute]
          simp [slashed, String.toList_append]
      | cons next rest ih =>
          have first := ih next
          rw [isAbsolute, beq_iff_eq] at first
          rw [slashed_cons, isAbsolute, beq_iff_eq, String.toList_append, String.toList_append,
            List.append_assoc, List.head?_append, first, Option.some_or]

/-! ## Places that paths lead to -/

/-- Texts that are names or dots, as the parts of a path are. -/
def AreParts (parts : List String) : Prop :=
  ∀ part ∈ parts, part ≠ sameDirectory → part ≠ parentDirectory → IsName part

theorem areParts_pathNames (path : String) : AreParts (pathNames path) := by
  intro part member notHere notUp
  have listed : part ∈ (Text.splitText '/' path).filter fun part => !part.isEmpty := by
    simp only [pathNames] at member
    split_ifs at member
    · exact (List.mem_append.mp member).resolve_right fun last =>
        notHere (List.mem_singleton.mp last)
    · exact member
  obtain ⟨inside, visible⟩ := List.mem_filter.mp listed
  obtain ⟨text, between, rfl⟩ := List.mem_map.mp inside
  refine ⟨by simpa using visible, ?_, notHere, notUp⟩
  rw [String.toList_ofList]
  exact Text.not_mem_of_mem_split between

end Files

open Files

namespace FileTree

variable {tree : FileTree}

theorem named_of_walk {follow : Place → List String → Except Fault Spot}
    (followed : ∀ here names place entry, Place.Named here → AreParts names →
      follow here names = .ok (.taken place entry) → place.Named)
    (names : List String) (here place : Place) (entry : Entry) (named : here.Named)
    (parts : AreParts names) (found : tree.walk follow here names = .ok (.taken place entry)) :
    place.Named := by
  induction names generalizing here with
  | nil =>
      cases found
      exact named
  | cons name rest ih =>
      obtain ⟨part, others⟩ := List.forall_mem_cons.mp parts
      cases strides_of_walk found with
      | stays same onward => exact ih here named others onward
      | up other same onward => exact ih here.tail named.tail others onward
      | file plain there last => exact named.cons (part plain.notHere plain.notUp)
      | directory plain there onward =>
          exact ih (name :: here) (named.cons (part plain.notHere plain.notUp)) others onward
      | @link target spot plain there linked =>
          have start : Place.Named (if isAbsolute target then [] else here) := by
            split_ifs
            · exact Place.named_nil
            · exact named
          have onward : AreParts (pathNames target ++ rest) :=
            List.forall_mem_append.mpr ⟨areParts_pathNames target, others⟩
          exact followed _ _ _ _ start onward linked

theorem named_of_walkOver (links : Nat) (here : Place) (names : List String) (place : Place)
    (entry : Entry) (named : here.Named) (parts : AreParts names)
    (found : tree.walkOver links here names = .ok (.taken place entry)) : place.Named := by
  induction links generalizing here names place entry with
  | zero =>
      refine named_of_walk ?_ names here place entry named parts found
      intro _ _ _ _ _ _ none
      cases none
  | succ links ih => exact named_of_walk ih names here place entry named parts found

/-- A path leads to a place with names, if relative paths start at one. -/
theorem named_of_find {path : String} {place : Place} {entry : Entry}
    (named : tree.current.Named) (found : tree.find path = .ok (.taken place entry)) :
    place.Named := by
  have parts := areParts_pathNames path
  unfold find at found
  split_ifs at found
  · exact named_of_walkOver _ _ _ _ _ Place.named_nil parts found
  · exact named_of_walkOver _ _ _ _ _ named parts found

end FileTree

end LayeredConfig
