import LayeredConfig.Proofs.Extends.Encounters
import LayeredConfig.Proofs.Files.Copies

/-!
# Loading once more

All that loading changes in a tree are the copies of remote documents, and no copy is read where no
local path leads to it.  So what was gathered once is gathered again from the same files with these
copies among them: the same documents in the same order, with the same copies written over the
earlier ones.  A copy that cannot be written is the last one, and by then all earlier ones are
there both times.
-/

set_option autoImplicit false

namespace LayeredConfig

open Files

namespace Loader

variable {loader : Loader} {base : String} {location : Location} {tree other : FileTree}
  {places : Place → Prop}

/-! ## The copies of loaded documents -/

/-- The copy that is left where a location is loaded, if any. -/
def copiesOf (loader : Loader) (tree : FileTree) : Location → List Copy
  | .file _ => []
  | .remote url =>
      match loader.copyPath url, loader.fetch url with
      | .ok path, .ok bytes =>
          match tree.find path with
          | .ok (.free place) => [⟨place, bytes⟩]
          | .ok (.taken place (.file _)) => [⟨place, bytes⟩]
          | _ => []
      | _, _ => []

theorem copiesOf_of_endsAt {url path : String} {bytes : List UInt8} {place : Place}
    (copied : loader.copyPath url = .ok path) (fetched : loader.fetch url = .ok bytes)
    (ends : FileTree.EndsAt place (tree.find path)) :
    loader.copiesOf tree (.remote url) = [⟨place, bytes⟩] := by
  simp only [copiesOf, copied, fetched]
  generalize tree.find path = outcome at ends
  cases ends <;> rfl

theorem endsAt_of_mem_copiesOf {copy : Copy} (member : copy ∈ loader.copiesOf tree location) :
    ∃ url path, location = .remote url ∧ loader.copyPath url = .ok path ∧
      loader.fetch url = .ok copy.bytes ∧ FileTree.EndsAt copy.place (tree.find path) := by
  cases location with
  | file path => cases member
  | remote url =>
      simp only [copiesOf] at member
      split at member
      · rename_i path bytes copied fetched
        split at member
        · rename_i place found
          obtain rfl := List.mem_singleton.mp member
          exact ⟨url, path, rfl, copied, fetched, by rw [found]; exact .free⟩
        · rename_i place old found
          obtain rfl := List.mem_singleton.mp member
          exact ⟨url, path, rfl, copied, fetched, by rw [found]; exact .file old⟩
        · cases member
      · cases member

theorem below_copiesOf (loader : Loader) (tree : FileTree) (location : Location) :
    ∀ copy ∈ loader.copiesOf tree location, copy.place ≠ [] := by
  intro copy member
  obtain ⟨url, path, -, -, -, ends⟩ := endsAt_of_mem_copiesOf member
  exact FileTree.ne_root_of_endsAt ends

theorem copiesOf_of_write_error {url path : String} {bytes : List UInt8} {fault : Fault}
    (failed : tree.write path bytes = .error fault) (copied : loader.copyPath url = .ok path) :
    loader.copiesOf tree (.remote url) = [] := by
  rw [List.eq_nil_iff_forall_not_mem]
  intro copy member
  obtain ⟨remote, another, same, copiedToo, -, ends⟩ := endsAt_of_mem_copiesOf member
  cases same
  obtain rfl := Except.ok.inj (copied.symm.trans copiedToo)
  rw [FileTree.write_of_endsAt ends] at failed
  cases failed

/-- Loading leaves its copy and nothing else. -/
theorem tree_of_load_eq (loader : Loader) (location : Location) (tree : FileTree) :
    ((loader.load location).after tree).2 = tree.putCopies (loader.copiesOf tree location) := by
  cases location with
  | file path =>
      rw [after_load_file, after_loadFile]
      rfl
  | remote url =>
      rw [after_load_remote, after_loadRemote]
      cases copied : loader.copyPath url with
      | error error => simp only [copiesOf, copied, FileTree.putCopies_nil]
      | ok path =>
          cases fetched : loader.fetch url with
          | error error => simp only [copiesOf, copied, fetched, FileTree.putCopies_nil]
          | ok bytes =>
              cases written : tree.write path bytes with
              | error fault =>
                  simp only [written, copiesOf_of_write_error written copied,
                    FileTree.putCopies_nil]
              | ok later =>
                  obtain ⟨place, ends, rfl⟩ := FileTree.endsAt_of_write written
                  simp only [written, copiesOf_of_endsAt copied fetched ends,
                    FileTree.putCopies_cons, FileTree.putCopies_nil]

theorem putCopies_of_load {result : Except ConfigError (Option LoadedDocument)} {later : FileTree}
    (load : (loader.load location).after tree = (result, later)) :
    later = tree.putCopies (loader.copiesOf tree location) := by
  rw [← tree_of_load_eq, load]

theorem differs_of_load {result : Except ConfigError (Option LoadedDocument)} {later : FileTree}
    (load : (loader.load location).after tree = (result, later))
    (differs : tree.DiffersInFiles places other) :
    later.DiffersInFiles places (other.putCopies (loader.copiesOf tree location)) := by
  rw [putCopies_of_load load]
  exact differs.putCopies (below_copiesOf loader tree location)

/-! ## Loading from the files that were left -/

end Loader

/-- A location that leads to none of some places.  The document at an address is at no place. -/
def Location.Avoids (places : Place → Prop) (tree : FileTree) : Location → Prop
  | .file path => ∀ place, places place → ¬ FileTree.EndsAt place (tree.find path)
  | .remote _ => True

theorem Location.Avoids.identity_eq {places : Place → Prop} {tree other : FileTree}
    {location : Location} (avoids : location.Avoids places tree)
    (differs : tree.DiffersInFiles places other) :
    location.identity other = location.identity tree := by
  cases location with
  | file path => simp only [Location.identity, differs.canonicalPath?_eq avoids]
  | remote url => rfl

namespace Loader

variable {loader : Loader} {base : String} {location : Location} {tree later other final : FileTree}
  {places : Place → Prop}

/-- A location that avoids the places where two trees differ yields the same in both, and leaves the
same copy.  Where it fails, the copy that it has left must have settled the difference. -/
theorem after_load_again {result : Except ConfigError (Option LoadedDocument)}
    (load : (loader.load location).after tree = (result, later))
    (differs : tree.DiffersInFiles places other) (avoids : location.Avoids places tree)
    (settled : ∀ error, result = .error error →
      other.putCopies (loader.copiesOf tree location) = later) :
    (loader.load location).after other =
      (result, other.putCopies (loader.copiesOf tree location)) := by
  cases location with
  | file path =>
      rw [after_load_file, after_loadFile] at load ⊢
      rw [differs.isFile_eq avoids]
      by_cases isFile : tree.isFile path = true
      · rw [if_pos isFile] at load ⊢
        rw [differs.read_eq avoids isFile]
        exact Prod.ext (congrArg Prod.fst load :) rfl
      · rw [if_neg isFile] at load ⊢
        exact Prod.ext (congrArg Prod.fst load :) rfl
  | remote url =>
      rw [after_load_remote, after_loadRemote] at load ⊢
      cases copied : loader.copyPath url with
      | error error =>
          simp only [copied] at load
          simp only [copiesOf, copied]
          exact Prod.ext (congrArg Prod.fst load :) rfl
      | ok path =>
          cases fetched : loader.fetch url with
          | error error =>
              simp only [copied, fetched] at load
              simp only [copiesOf, copied, fetched]
              exact Prod.ext (congrArg Prod.fst load :) rfl
          | ok bytes =>
              cases written : tree.write path bytes with
              | error fault =>
                  simp only [copied, fetched, written] at load
                  cases load
                  -- Nothing is left to be written, so both trees are the same.
                  have none := copiesOf_of_write_error written copied
                  have same : other = tree := by
                    have settledHere := settled _ rfl
                    rwa [none, FileTree.putCopies_nil] at settledHere
                  simp only [same, none, written, FileTree.putCopies_nil]
              | ok later =>
                  obtain ⟨place, ends, -⟩ := FileTree.endsAt_of_write written
                  have endsToo := (differs.leadsAlike path).endsAt ends
                  simp only [copied, fetched, written] at load
                  simp only [copiesOf_of_endsAt copied fetched ends,
                    FileTree.write_of_endsAt endsToo]
                  exact Prod.ext (congrArg Prod.fst load :) rfl

/-! ## Gathering from the files that were left -/

def copiesOn (loader : Loader) (visits : List Visit) : List Copy :=
  visits.flatMap fun visit => loader.copiesOf visit.tree visit.location

theorem copiesOn_cons (visit : Visit) (visits : List Visit) :
    loader.copiesOn (visit :: visits) =
      loader.copiesOf visit.tree visit.location ++ loader.copiesOn visits :=
  List.flatMap_cons ..

theorem copiesOn_singleton (visit : Visit) :
    loader.copiesOn [visit] = loader.copiesOf visit.tree visit.location :=
  List.flatMap_singleton ..

theorem copiesOn_append (first second : List Visit) :
    loader.copiesOn (first ++ second) = loader.copiesOn first ++ loader.copiesOn second :=
  List.flatMap_append ..

theorem below_copiesOn (loader : Loader) (visits : List Visit) :
    ∀ copy ∈ loader.copiesOn visits, copy.place ≠ [] := by
  intro copy member
  obtain ⟨visit, -, left⟩ := List.mem_flatMap.mp member
  exact below_copiesOf _ _ _ copy left

/-- Gathering leaves the copies of the visited documents and nothing else. -/
theorem putCopies_of_gathers {chain : List String} {declared : Except ConfigError (List String)}
    {visits : List Visit} {outcome : Except ConfigError Ancestry}
    (gathered : loader.Gathers base chain declared tree visits outcome final) :
    final = tree.putCopies (loader.copiesOn visits) := by
  induction gathered with
  | malformed chain error tree => rfl
  | empty chain tree => rfl
  | cyclic known => rfl
  | refused fresh load => rw [copiesOn_singleton, putCopies_of_load load]
  | missing fresh load => rw [copiesOn_singleton, putCopies_of_load load]
  | above fresh load inner ih =>
      rw [ih, putCopies_of_load load, copiesOn_cons, FileTree.putCopies_append]
  | ancestor fresh load inner rest ihInner ihRest =>
      rw [ihRest, ihInner, putCopies_of_load load, copiesOn_cons, copiesOn_append,
        FileTree.putCopies_append, FileTree.putCopies_append]

theorem differs_of_gathers {chain : List String} {declared : Except ConfigError (List String)}
    {visits : List Visit} {outcome : Except ConfigError Ancestry}
    (gathered : loader.Gathers base chain declared tree visits outcome final)
    (differs : tree.DiffersInFiles places other) :
    final.DiffersInFiles places (other.putCopies (loader.copiesOn visits)) := by
  rw [putCopies_of_gathers gathered]
  exact differs.putCopies (below_copiesOn loader visits)

/-- What was gathered is gathered again in a tree that differs at places which no item leads to.  An
outcome that is an error comes again once the copies before it have settled the difference. -/
theorem gathers_again {chain : List String} {declared : Except ConfigError (List String)}
    {visits : List Visit} {outcome : Except ConfigError Ancestry}
    (gathered : loader.Gathers base chain declared tree visits outcome final)
    (differs : tree.DiffersInFiles places other)
    (avoids : ∀ location found, loader.Meets base chain declared tree location found →
      location.Avoids places found)
    (settled : ∀ error, outcome = .error error →
      other.putCopies (loader.copiesOn visits) = final) :
    ∃ visitsOther,
      loader.Gathers base chain declared other visitsOther outcome
        (other.putCopies (loader.copiesOn visits)) := by
  -- By induction on the gathering, for any other tree.  The error can only be in the last branch.
  induction gathered generalizing other with
  | malformed chain error tree => exact ⟨_, .malformed chain error other⟩
  | empty chain tree => exact ⟨_, .empty chain other⟩
  | cyclic known =>
      have sameIdentity := (avoids _ _ .here).identity_eq differs
      rw [← sameIdentity] at known ⊢
      exact ⟨_, .cyclic known⟩
  | refused fresh load =>
      rw [copiesOn_singleton] at settled ⊢
      have loadedAgain := after_load_again load differs (avoids _ _ .here) fun error _ =>
        settled _ rfl
      rw [← (avoids _ _ .here).identity_eq differs] at fresh
      exact ⟨_, .refused fresh loadedAgain⟩
  | missing fresh load =>
      rw [copiesOn_singleton] at settled ⊢
      have loadedAgain := after_load_again load differs (avoids _ _ .here) fun error failed => by
        cases failed
      rw [← (avoids _ _ .here).identity_eq differs] at fresh
      exact ⟨_, .missing fresh loadedAgain⟩
  | above fresh load inner ih =>
      have loadedAgain := after_load_again load differs (avoids _ _ .here) fun error failed => by
        cases failed
      rw [copiesOn_cons, FileTree.putCopies_append] at settled ⊢
      have differsLater := differs_of_load load differs
      obtain ⟨visitsInner, gatheredInner⟩ := ih differsLater
        (fun location found met => avoids location found (.above fresh load met)) settled
      rw [← (avoids _ _ .here).identity_eq differs] at fresh gatheredInner
      exact ⟨_, .above fresh loadedAgain gatheredInner⟩
  | ancestor fresh load inner rest ihInner ihRest =>
      have loadedAgain := after_load_again load differs (avoids _ _ .here) fun error failed => by
        cases failed
      rw [copiesOn_cons, copiesOn_append, FileTree.putCopies_append, FileTree.putCopies_append]
        at settled ⊢
      have differsLater := differs_of_load load differs
      obtain ⟨visitsInner, gatheredInner⟩ := ihInner differsLater
        (fun location found met => avoids location found (.above fresh load met))
        fun error failed => by cases failed
      have differsMiddle := differs_of_gathers inner differsLater
      obtain ⟨visitsRest, gatheredRest⟩ := ihRest differsMiddle
        (fun location found met => avoids location found (.beside fresh load inner met))
        fun error failed => settled error (by rw [failed]; rfl)
      rw [← (avoids _ _ .here).identity_eq differs] at fresh gatheredInner
      exact ⟨_, .ancestor fresh loadedAgain gatheredInner gatheredRest⟩

/-! ## Documents without ancestors -/

section Leaf

variable {base name : String} {names chain : List String} {parent : LoadedDocument}
  (load : (loader.load (locate base name)).after tree = (.ok (some parent), later))
  (leaf : parent.document.ancestors = .ok [])

include load leaf

theorem gathers_of_leaf {visits : List Visit} {outcome : Except ConfigError Ancestry}
    (fresh : (locate base name).identity tree ∉ chain)
    (rest : loader.Gathers base chain (.ok names) later visits outcome final) :
    loader.Gathers base chain (.ok (name :: names)) tree (⟨chain, locate base name, tree⟩ :: visits)
      (outcome.map (.ancestor name parent.document .empty)) final := by
  have inner : loader.Gathers base (chain ++ [(locate base name).identity tree])
      parent.document.ancestors later [] (.ok .empty) later := by
    rw [leaf]
    exact .empty _ _
  exact .ancestor fresh load inner rest

theorem visit_of_leaf {visits : List Visit} {outcome : Except ConfigError Ancestry} {visit : Visit}
    (gathered : loader.Gathers base chain (.ok (name :: names)) tree visits outcome final)
    (member : visit ∈ visits) :
    visit = ⟨chain, locate base name, tree⟩ ∨
      ∃ others outcome, loader.Gathers base chain (.ok names) later others outcome final ∧
        visit ∈ others := by
  cases gathered with
  | cyclic known => cases member
  | refused fresh failed => cases load.symm.trans failed
  | missing fresh failed => cases load.symm.trans failed
  | above fresh loaded inner =>
      cases load.symm.trans loaded
      rw [leaf] at inner
      cases inner
  | ancestor fresh loaded inner rest =>
      cases load.symm.trans loaded
      rw [leaf] at inner
      cases inner
      rcases List.mem_cons.mp member with here | behind
      · exact .inl here
      · exact .inr ⟨_, _, rest, behind⟩

theorem met_of_leaf {location : Location} {found : FileTree}
    (met : loader.Meets base chain (.ok (name :: names)) tree location found) :
    location = locate base name ∧ found = tree ∨
      loader.Meets base chain (.ok names) later location found := by
  cases met with
  | here => exact .inl ⟨rfl, rfl⟩
  | above fresh loaded inner =>
      cases load.symm.trans loaded
      rw [leaf] at inner
      cases inner
  | beside fresh loaded gathered rest =>
      cases load.symm.trans loaded
      rw [leaf] at gathered
      cases gathered
      exact .inr rest

end Leaf

end Loader

end LayeredConfig
