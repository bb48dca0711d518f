import LayeredConfig.Proofs.Files.Copies
import LayeredConfig.Proofs.Files.Names
import LayeredConfig.Proofs.Files.NoFile

/-!
# Trees that differ in one file

A write puts its bytes into one file and leaves every other file as it is.  Where a file is taken
away, every path that led to it leads to a free place, and every other path that leads to a file
still does.
-/

set_option autoImplicit false

namespace LayeredConfig

open Files

namespace FileTree

/-! ## A file with other bytes -/

/-- Some bytes are in the file at a place, and every other file is as in an earlier tree. -/
structure Replaced (place : Place) (bytes : List UInt8) (tree later : FileTree) : Prop where
  held : ∀ path, EndsAt place (tree.find path) →
    later.isFile path = true ∧ later.read path = .ok bytes
  elsewhere : ∀ another, another ≠ place → later.entry? another = tree.entry? another
  others : ∀ path, ¬ EndsAt place (tree.find path) →
    later.isFile path = tree.isFile path ∧
      (tree.isFile path = true → later.read path = tree.read path)

section Writes

variable {tree : FileTree} {path : String} {place : Place}

theorem read_of_find {bytes : List UInt8}
    (found : tree.find path = .ok (.taken place (.file bytes))) :
    tree.read path = .ok bytes := by
  rw [read, found]

theorem isFile_of_read {bytes : List UInt8} (held : tree.read path = .ok bytes) :
    tree.isFile path = true := by
  unfold read at held
  unfold isFile
  split at held
  · cases held
  · cases held
  · rename_i found
    rw [found]
  · cases held

theorem differsInFiles_of_endsAt (ends : EndsAt place (tree.find path)) (bytes : List UInt8) :
    tree.DiffersInFiles (· = place) (tree.setEntry place (.file bytes)) where
  current := rfl
  same another apart := by
    rw [entry?_setEntry tree (ne_root_of_endsAt ends), if_neg apart]
  takes another here := takesFile_setEntry (ne_root_of_endsAt ends) bytes (.inl here)
  takesToo another here := by
    rw [here]
    exact takesFile_of_endsAt ends

/-- A path that ends at a place leads to the file that is there. -/
theorem find_of_endsAt {bytes : List UInt8} (there : tree.entry? place = some (.file bytes))
    (ends : EndsAt place (tree.find path)) : tree.find path = .ok (.taken place (.file bytes)) := by
  generalize found : tree.find path = outcome at ends
  cases ends with
  | file old =>
      have file : tree.entry? place = some (.file old) := fits_of_find found
      rw [there] at file
      cases file
      rfl
  | free =>
      obtain ⟨-, absent⟩ := fits_of_find found
      rw [there] at absent
      cases absent

theorem replaced_of_endsAt (ends : EndsAt place (tree.find path)) (bytes : List UInt8) :
    Replaced place bytes tree (tree.setEntry place (.file bytes)) := by
  have differs := differsInFiles_of_endsAt ends bytes
  refine ⟨?_, differs.same, ?_⟩
  · intro another endsToo
    have there : FileTree.entry? (tree.setEntry place (.file bytes)) place =
        some (.file bytes) := by
      rw [entry?_setEntry tree (ne_root_of_endsAt ends), if_pos rfl]
    have found := find_of_endsAt there ((differs.leadsAlike another).endsAt endsToo)
    rw [isFile, read, found]
    exact ⟨rfl, rfl⟩
  · intro another apart
    have apartToo : ∀ here, here = place → ¬ EndsAt here (tree.find another) := by
      rintro _ rfl
      exact apart
    exact ⟨differs.isFile_eq apartToo, differs.read_eq apartToo⟩

/-- A path that ends at a place ends there after every write. -/
theorem endsAt_later {later : FileTree} {other : String} {bytes : List UInt8}
    (written : tree.write other bytes = .ok later) (ends : EndsAt place (tree.find path)) :
    EndsAt place (later.find path) := by
  obtain ⟨another, endsOther, rfl⟩ := endsAt_of_write written
  exact ((differsInFiles_of_endsAt endsOther bytes).leadsAlike path).endsAt ends

end Writes

/-! ## A tree without a file -/

variable {place : Place} {tree other : FileTree} {path : String}

theorem entryIn_filter (place other : Place) (entries : List (Place × Entry)) :
    entryIn other (entries.filter fun entry => entry.1 ≠ place) =
      if other = place then none else entryIn other entries := by
  induction entries with
  | nil => simp [entryIn]
  | cons head rest ih =>
      obtain ⟨here, entry⟩ := head
      by_cases dropped : here = place
      · rw [List.filter_cons_of_neg (by simpa using dropped), ih]
        by_cases same : other = place
        · rw [if_pos same, if_pos same]
        · rw [if_neg same, if_neg same, entryIn, if_neg (dropped ▸ same)]
      · rw [List.filter_cons_of_pos (by simpa using dropped), entryIn, entryIn, ih]
        by_cases found : other = here
        · rw [if_pos found, if_pos found, if_neg (found ▸ dropped)]
        · rw [if_neg found, if_neg found]

theorem entry?_dropEntry (tree : FileTree) {place : Place} (below : place ≠ []) (other : Place) :
    FileTree.entry? (tree.dropEntry place) other =
      if other = place then none else tree.entry? other := by
  cases other with
  | nil =>
      rw [if_neg (Ne.symm below)]
      rfl
  | cons name rest => exact entryIn_filter place (name :: rest) tree.entries

/-- Two trees that differ at one place.  In the first one a file is there, and in the other one
nothing. -/
structure LacksFile (place : Place) (tree other : FileTree) : Prop
    extends DiffersInFiles (· = place) tree other where
  held : ∃ bytes, tree.entry? place = some (.file bytes)
  absent : other.entry? place = none
  placed : place.Named
  named : tree.current.Named

theorem lacksFile_dropEntry {bytes : List UInt8} (named : tree.current.Named)
    (found : tree.find path = .ok (.taken place (.file bytes))) :
    LacksFile place tree (tree.dropEntry place) := by
  have there : tree.entry? place = some (.file bytes) := fits_of_find found
  have below : place ≠ [] := by
    rintro rfl
    cases there
  have gone : FileTree.entry? (tree.dropEntry place) place = none := by
    rw [entry?_dropEntry tree below, if_pos rfl]
  refine ⟨⟨⟨rfl, ?_, ?_⟩, ?_⟩, ⟨bytes, there⟩, gone, named_of_find named found, named⟩
  · intro another apart
    rw [entry?_dropEntry tree below, if_neg apart]
  · intro another same entry present
    rw [same, gone] at present
    cases present
  · intro another same entry present
    rw [same, there] at present
    exact ⟨bytes, (Option.some.inj present).symm⟩

theorem removeFile_of_place? {bytes : List UInt8} (stands : tree.place? path = some place)
    (there : tree.entry? place = some (.file bytes)) :
    tree.removeFile path = tree.dropEntry place := by
  rw [removeFile, stands]
  simp only [there]

theorem LacksFile.putCopies {copies : List Copy} (lacks : LacksFile place tree other)
    (below : ∀ copy ∈ copies, copy.place ≠ []) (apart : ∀ copy ∈ copies, copy.place ≠ place) :
    LacksFile place (tree.putCopies copies) (other.putCopies copies) := by
  have unwritten : place ∉ copies.map Copy.place := by
    intro written
    obtain ⟨copy, member, same⟩ := List.mem_map.mp written
    exact apart copy member same
  refine ⟨lacks.toDiffersInFiles.putCopies below, ?_, ?_, lacks.placed, ?_⟩
  · rw [entry?_putCopies_of_not_mem below unwritten]
    exact lacks.held
  · rw [entry?_putCopies_of_not_mem below unwritten]
    exact lacks.absent
  · rw [current_putCopies]
    exact lacks.named

namespace LacksFile

variable (lacks : LacksFile place tree other)

include lacks

/-- A path to the file leads to the file in the one tree and to a free place in the other one. -/
theorem find_of_endsAt (ends : EndsAt place (tree.find path)) :
    (∃ bytes, tree.find path = .ok (.taken place (.file bytes))) ∧
      other.find path = .ok (.free place) := by
  obtain ⟨bytes, there⟩ := lacks.held
  refine ⟨⟨bytes, FileTree.find_of_endsAt there ends⟩, ?_⟩
  have endsToo := (lacks.leadsAlike path).endsAt ends
  generalize found : other.find path = outcome at endsToo
  cases endsToo with
  | free => rfl
  | file old =>
      have present : other.entry? place = some (.file old) := fits_of_find found
      rw [lacks.absent] at present
      cases present

theorem isFile_of_endsAt (ends : EndsAt place (tree.find path)) : other.isFile path = false := by
  rw [isFile, (lacks.find_of_endsAt ends).2]

/-- Nothing is a file in the other tree that is none in the first one. -/
theorem isFile_of_not_isFile (none : tree.isFile path = false) : other.isFile path = false := by
  by_cases ends : EndsAt place (tree.find path)
  · exact lacks.isFile_of_endsAt ends
  · have apart : ∀ here, here = place → ¬ EndsAt here (tree.find path) := by
      rintro _ rfl
      exact ends
    rw [lacks.isFile_eq apart, none]

/-- Only paths to the file have the identity of the file, apart from paths to no file at all. -/
theorem isFile_of_identity (here : (Location.file path).identity tree = place.path) :
    other.isFile path = false := by
  cases file : tree.isFile path with
  | false => exact lacks.isFile_of_not_isFile file
  | true =>
      obtain ⟨another, bytes, found⟩ := isFile_iff.mp file
      simp only [Location.identity, canonicalPath?, found, Option.getD_some] at here
      obtain rfl := Place.path_injective (named_of_find lacks.named found) lacks.placed here
      exact lacks.isFile_of_endsAt (by rw [found]; exact .file bytes)

end LacksFile

end FileTree

end LayeredConfig
