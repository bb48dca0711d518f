import LayeredConfig.Proofs.Extends.Termination
import LayeredConfig.Proofs.Files.Footprint

/-!
# What an expansion depends on

An expansion comes to one item after the other, and depends on nothing in the tree but the places on
the paths of these items.  The copy of a remote document is written and never read, so what was in
its place before makes no difference.  Two trees that differ elsewhere are expanded alike, and
differ at the same places afterwards.
-/

set_option autoImplicit false

namespace LayeredConfig

open Files

/-- A location that is loaded past some places: its file is not looked for there.  The copy of a
remote document may be put into such a place, if it is a loose one. -/
def Location.Spares (loader : Loader) (places loose : Place → Prop) (tree : FileTree) :
    Location → Prop
  | .file path => ∀ place ∈ tree.placesOn path, ¬ places place
  | .remote url =>
      ∀ path, loader.copyPath url = .ok path → ∀ place ∈ tree.placesOn path, places place →
        FileTree.EndsAt place (tree.find path) ∧ loose place

variable {loader : Loader} {places loose : Place → Prop} {tree other : FileTree}
  {location : Location}

theorem Location.Spares.mono {fewer more : Place → Prop}
    (spares : location.Spares loader places loose tree)
    (within : ∀ place, fewer place → places place) (looser : ∀ place, loose place → more place) :
    location.Spares loader fewer more tree := by
  cases location with
  | file path => exact fun place member differ => spares place member (within place differ)
  | remote url =>
      intro path copied place member differ
      obtain ⟨ends, free⟩ := spares path copied place member (within place differ)
      exact ⟨ends, looser place free⟩

theorem Location.spares_of_none (none : ∀ place, ¬ places place) (loader : Loader)
    (location : Location) (loose : Place → Prop) (tree : FileTree) :
    location.Spares loader places loose tree := by
  cases location with
  | file path => exact fun place _ => none place
  | remote url => exact fun path _ place _ differ => absurd differ (none place)

theorem Location.Spares.identity_eq (spares : location.Spares loader places loose tree)
    (differs : tree.DiffersAt places loose other) :
    location.identity other = location.identity tree := by
  cases location with
  | file path => simp only [Location.identity, differs.canonicalPath?_eq spares]
  | remote url => rfl

namespace Loader

variable {base : String}

/-- A location that spares the places of a difference yields the same in both trees. -/
theorem after_load_of_spares (spares : location.Spares loader places loose tree)
    (differs : tree.DiffersAt places loose other) :
    ∃ result later last,
      (loader.load location).after tree = (result, later) ∧
      (loader.load location).after other = (result, last) ∧
      later.DiffersAt places loose last := by
  cases location with
  | file path =>
      rw [after_load_file, after_load_file, after_loadFile, after_loadFile,
        differs.isFile_eq spares, differs.read_eq spares]
      exact ⟨_, tree, other, rfl, rfl, differs⟩
  | remote url =>
      rw [after_load_remote, after_load_remote, after_loadRemote, after_loadRemote]
      cases copied : loader.copyPath url with
      | error error => exact ⟨_, tree, other, rfl, rfl, differs⟩
      | ok path =>
          cases fetched : loader.fetch url with
          | error error => exact ⟨_, tree, other, rfl, rfl, differs⟩
          | ok bytes =>
              rcases differs.write (spares path copied) bytes with
                ⟨fault, written, writtenToo⟩ | ⟨later, last, written, writtenToo, differsLater⟩
              · simp only [written, writtenToo]
                exact ⟨_, tree, other, rfl, rfl, differs⟩
              · simp only [written, writtenToo]
                exact ⟨_, later, last, rfl, rfl, differsLater⟩

/-- The items that the gathering for declared names comes to, each with the tree that it finds. -/
inductive Meets (loader : Loader) (base : String) :
    List String → Except ConfigError (List String) → FileTree → Location → FileTree → Prop where
  | here {chain : List String} {name : String} {names : List String} {tree : FileTree} :
      Meets loader base chain (.ok (name :: names)) tree (locate base name) tree
  | above {chain : List String} {name : String} {names : List String} {tree later found : FileTree}
      {parent : LoadedDocument} {location : Location}
      (fresh : (locate base name).identity tree ∉ chain)
      (load : (loader.load (locate base name)).after tree = (.ok (some parent), later))
      (inner : Meets loader base (chain ++ [(locate base name).identity tree])
        parent.document.ancestors later location found) :
      Meets loader base chain (.ok (name :: names)) tree location found
  | beside {chain : List String} {name : String} {names : List String}
      {tree later middle found : FileTree} {parent : LoadedDocument} {visits : List Visit}
      {ancestry : Ancestry} {location : Location}
      (fresh : (locate base name).identity tree ∉ chain)
      (load : (loader.load (locate base name)).after tree = (.ok (some parent), later))
      (gathered : Gathers loader base (chain ++ [(locate base name).identity tree])
        parent.document.ancestors later visits (.ok ancestry) middle)
      (rest : Meets loader base chain (.ok names) middle location found) :
      Meets loader base chain (.ok (name :: names)) tree location found

/-- What is gathered in one tree is gathered in every other tree that differs at places which all
items spare. -/
theorem gathers_of_spares {chain : List String} {declared : Except ConfigError (List String)}
    {final : FileTree} {visits : List Visit} {outcome : Except ConfigError Ancestry}
    (gathered : loader.Gathers base chain declared tree visits outcome final)
    (differs : tree.DiffersAt places loose other)
    (spares : ∀ location found, loader.Meets base chain declared tree location found →
      location.Spares loader places loose found) :
    ∃ visitsOther last,
      loader.Gathers base chain declared other visitsOther outcome last ∧
      final.DiffersAt places loose last := by
  -- By induction on the gathering, for any other tree: each load keeps the places of difference.
  induction gathered generalizing other with
  | malformed chain error tree => exact ⟨_, _, .malformed chain error other, differs⟩
  | empty chain tree => exact ⟨_, _, .empty chain other, differs⟩
  | cyclic known =>
      have sameIdentity := (spares _ _ .here).identity_eq differs
      rw [← sameIdentity] at known ⊢
      exact ⟨_, _, .cyclic known, differs⟩
  | refused fresh load =>
      obtain ⟨result, later, last, loaded, loadedToo, differsLater⟩ :=
        after_load_of_spares (spares _ _ .here) differs
      rw [load] at loaded
      cases loaded
      rw [← (spares _ _ .here).identity_eq differs] at fresh
      exact ⟨_, _, .refused fresh loadedToo, differsLater⟩
  | missing fresh load =>
      obtain ⟨result, later, last, loaded, loadedToo, differsLater⟩ :=
        after_load_of_spares (spares _ _ .here) differs
      rw [load] at loaded
      cases loaded
      rw [← (spares _ _ .here).identity_eq differs] at fresh
      exact ⟨_, _, .missing fresh loadedToo, differsLater⟩
  | above fresh load inner ih =>
      obtain ⟨result, later, last, loaded, loadedToo, differsLater⟩ :=
        after_load_of_spares (spares _ _ .here) differs
      rw [load] at loaded
      cases loaded
      obtain ⟨visitsInner, lastInner, gatheredInner, differsInner⟩ :=
        ih differsLater fun location found met => spares location found (.above fresh load met)
      rw [← (spares _ _ .here).identity_eq differs] at fresh gatheredInner
      exact ⟨_, _, .above fresh loadedToo gatheredInner, differsInner⟩
  | ancestor fresh load inner rest ihInner ihRest =>
      obtain ⟨result, later, last, loaded, loadedToo, differsLater⟩ :=
        after_load_of_spares (spares _ _ .here) differs
      rw [load] at loaded
      cases loaded
      obtain ⟨visitsInner, lastInner, gatheredInner, differsInner⟩ :=
        ihInner differsLater fun location found met => spares location found (.above fresh load met)
      obtain ⟨visitsRest, lastRest, gatheredRest, differsRest⟩ :=
        ihRest differsInner fun location found met =>
          spares location found (.beside fresh load inner met)
      rw [← (spares _ _ .here).identity_eq differs] at fresh gatheredInner
      exact ⟨_, _, .ancestor fresh loadedToo gatheredInner gatheredRest, differsRest⟩

/-- An expansion comes to the same in two trees that differ at places which all items spare, if the
origin is the same in both. -/
theorem after_expand_of_spares {document : Document} {origin : Option Location}
    (differs : tree.DiffersAt places loose other)
    (sameOrigin : startingChain other origin = startingChain tree origin)
    (spares : ∀ location found,
      loader.Meets base (startingChain tree origin) document.ancestors tree location found →
        location.Spares loader places loose found) :
    ∃ result later last,
      (loader.expand base document origin).after tree = (result, later) ∧
      (loader.expand base document origin).after other = (result, last) ∧
      later.DiffersAt places loose last := by
  obtain ⟨visits, outcome, final, gathered⟩ :=
    loader.exists_gathers_of_document base document origin tree
  obtain ⟨visitsOther, last, gatheredToo, differsFinal⟩ :=
    gathers_of_spares gathered differs spares
  rw [← sameOrigin] at gatheredToo
  exact ⟨_, _, _, after_expand_of_gathers gathered, after_expand_of_gathers gatheredToo,
    differsFinal⟩

end Loader

end LayeredConfig
