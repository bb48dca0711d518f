import LayeredConfig.Location
import Mathlib.Tactic.SplitIfs

/-!
# Growth of a file tree

A write at the end of a path changes a file or takes a free place; it moves nothing and frees
nothing.  So a path that leads to something leads there ever after, and the identity of a location
that holds a document is settled.
-/

set_option autoImplicit false

namespace LayeredConfig

namespace Files

/-- What an entry may turn into by writes.  Only the bytes of a file change. -/
def Entry.Becomes : Entry → Entry → Prop
  | .file _, .file _ => True
  | old, new => old = new

theorem Entry.Becomes.refl (entry : Entry) : entry.Becomes entry := by
  cases entry <;> simp [Entry.Becomes]

theorem Entry.Becomes.trans {first second third : Entry} (old : first.Becomes second)
    (new : second.Becomes third) : first.Becomes third := by
  cases first <;> cases second <;> cases third <;> simp_all [Entry.Becomes]

theorem Entry.Becomes.of_file {bytes : List UInt8} {entry : Entry}
    (becomes : (Entry.file bytes).Becomes entry) : ∃ now, entry = .file now := by
  cases entry with
  | file now => exact ⟨now, rfl⟩
  | directory => simp [Entry.Becomes] at becomes
  | link target => simp [Entry.Becomes] at becomes

theorem Entry.becomes_directory {entry : Entry} :
    Entry.directory.Becomes entry ↔ entry = .directory := by
  cases entry <;> simp [Entry.Becomes]

theorem Entry.becomes_link {target : String} {entry : Entry} :
    (Entry.link target).Becomes entry ↔ entry = .link target := by
  cases entry <;> simp [Entry.Becomes, eq_comm]

end Files

open Files

namespace FileTree

structure Growth (tree later : FileTree) : Prop where
  current : later.current = tree.current
  /-- Nothing leaves its place. -/
  kept : ∀ place entry, tree.entry? place = some entry →
    ∃ now, later.entry? place = some now ∧ entry.Becomes now

theorem Growth.refl (tree : FileTree) : tree.Growth tree :=
  ⟨rfl, fun _ entry found => ⟨entry, found, .refl entry⟩⟩

theorem Growth.trans {tree middle later : FileTree} (first : tree.Growth middle)
    (second : middle.Growth later) : tree.Growth later := by
  refine ⟨second.current.trans first.current, ?_⟩
  intro place entry found
  obtain ⟨between, foundBetween, becomesBetween⟩ := first.kept place entry found
  obtain ⟨now, foundNow, becomesNow⟩ := second.kept place between foundBetween
  exact ⟨now, foundNow, becomesBetween.trans becomesNow⟩

/-! ## Where paths lead in a tree that has grown -/

section Walk

variable {tree later : FileTree} {follow followLater : Place → List String → Except Fault Spot}

structure Plain (name : String) : Prop where
  notHere : name ≠ sameDirectory
  notUp : name ≠ parentDirectory
  short : ¬ maxNameBytes < name.utf8ByteSize

/-- How a walk by a name and the names after it comes to a spot. -/
inductive Strides (tree : FileTree) (follow : Place → List String → Except Fault Spot)
    (here : Place) (name : String) (rest : List String) : Spot → Prop where
  | stays {spot : Spot} (same : name = sameDirectory)
      (onward : tree.walk follow here rest = .ok spot) : Strides tree follow here name rest spot
  | up {spot : Spot} (other : name ≠ sameDirectory) (same : name = parentDirectory)
      (onward : tree.walk follow here.tail rest = .ok spot) :
      Strides tree follow here name rest spot
  | free (plain : Plain name) (absent : tree.entry? (name :: here) = none) (last : rest = []) :
      Strides tree follow here name rest (.free (name :: here))
  | file {bytes : List UInt8} (plain : Plain name)
      (there : tree.entry? (name :: here) = some (.file bytes)) (last : rest = []) :
      Strides tree follow here name rest (.taken (name :: here) (.file bytes))
  | directory {spot : Spot} (plain : Plain name)
      (there : tree.entry? (name :: here) = some .directory)
      (onward : tree.walk follow (name :: here) rest = .ok spot) :
      Strides tree follow here name rest spot
  | link {target : String} {spot : Spot} (plain : Plain name)
      (there : tree.entry? (name :: here) = some (.link target))
      (followed : follow (if isAbsolute target then [] else here) (pathNames target ++ rest) =
        .ok spot) :
      Strides tree follow here name rest spot

theorem strides_of_walk {here : Place} {name : String} {rest : List String} {spot : Spot}
    (found : tree.walk follow here (name :: rest) = .ok spot) :
    Strides tree follow here name rest spot := by
  simp only [FileTree.walk] at found
  by_cases stays : name = sameDirectory
  · rw [if_pos stays] at found
    exact .stays stays found
  · rw [if_neg stays] at found
    by_cases up : name = parentDirectory
    · rw [if_pos up] at found
      exact .up stays up found
    · rw [if_neg up] at found
      by_cases long : maxNameBytes < name.utf8ByteSize
      · rw [if_pos long] at found
        cases found
      · rw [if_neg long] at found
        have plain : Plain name := ⟨stays, up, long⟩
        rcases there : tree.entry? (name :: here) with _ | bytes | _ | target
        · rw [there] at found
          cases rest with
          | nil =>
              obtain rfl := Except.ok.inj found
              exact .free plain there rfl
          | cons next more => cases found
        · rw [there] at found
          cases rest with
          | nil =>
              obtain rfl := Except.ok.inj found
              exact .file plain there rfl
          | cons next more => cases found
        · rw [there] at found
          exact .directory plain there found
        · rw [there] at found
          exact .link plain there found

theorem Strides.walk {here : Place} {name : String} {rest : List String} {spot : Spot}
    (strides : Strides tree follow here name rest spot) :
    tree.walk follow here (name :: rest) = .ok spot := by
  cases strides with
  | stays same onward => rw [FileTree.walk, if_pos same, onward]
  | up other same onward => rw [FileTree.walk, if_neg other, if_pos same, onward]
  | free plain absent last =>
      rw [FileTree.walk, if_neg plain.notHere, if_neg plain.notUp, if_neg plain.short, absent, last]
      rfl
  | file plain there last =>
      rw [FileTree.walk, if_neg plain.notHere, if_neg plain.notUp, if_neg plain.short, there, last]
      rfl
  | directory plain there onward =>
      rw [FileTree.walk, if_neg plain.notHere, if_neg plain.notUp, if_neg plain.short, there]
      exact onward
  | link plain there followed =>
      rw [FileTree.walk, if_neg plain.notHere, if_neg plain.notUp, if_neg plain.short, there]
      exact followed

/-- A walk that ends at a taken place ends there ever after, if links are followed alike. -/
theorem Growth.walk (growth : tree.Growth later)
    (followed : ∀ here names place entry, follow here names = .ok (.taken place entry) →
      ∃ now, followLater here names = .ok (.taken place now) ∧ entry.Becomes now)
    (names : List String) (here place : Place) (entry : Entry)
    (found : tree.walk follow here names = .ok (.taken place entry)) :
    ∃ now, later.walk followLater here names = .ok (.taken place now) ∧ entry.Becomes now := by
  induction names generalizing here with
  | nil => exact ⟨entry, found, .refl entry⟩
  | cons name rest ih =>
      cases strides_of_walk found with
      | stays same onward =>
          obtain ⟨now, ends, becomes⟩ := ih here onward
          exact ⟨now, Strides.walk (.stays same ends), becomes⟩
      | up other same onward =>
          obtain ⟨now, ends, becomes⟩ := ih here.tail onward
          exact ⟨now, Strides.walk (.up other same ends), becomes⟩
      | file plain there last =>
          obtain ⟨entry, foundNow, becomes⟩ := growth.kept _ _ there
          obtain ⟨bytes, rfl⟩ := becomes.of_file
          exact ⟨.file bytes, Strides.walk (.file plain foundNow last), becomes⟩
      | directory plain there onward =>
          obtain ⟨entry, foundNow, becomes⟩ := growth.kept _ _ there
          obtain rfl := Entry.becomes_directory.mp becomes
          obtain ⟨now, ends, becomesNow⟩ := ih (name :: here) onward
          exact ⟨now, Strides.walk (.directory plain foundNow ends), becomesNow⟩
      | link plain there linked =>
          obtain ⟨entry, foundNow, becomes⟩ := growth.kept _ _ there
          obtain rfl := Entry.becomes_link.mp becomes
          obtain ⟨now, ends, becomesNow⟩ := followed _ _ _ _ linked
          exact ⟨now, Strides.walk (.link plain foundNow ends), becomesNow⟩

/-- What holds of the spot that a walk finds: a file is at its place, and a free place is no root
and has no entry. -/
def Fits (tree : FileTree) : Spot → Prop
  | .taken place (.file bytes) => tree.entry? place = some (.file bytes)
  | .taken _ .directory => True
  | .taken _ (.link _) => False
  | .free place => place ≠ [] ∧ tree.entry? place = none

theorem fits_of_walk
    (followed : ∀ here names spot, follow here names = .ok spot → tree.Fits spot)
    (names : List String) (here : Place) (spot : Spot)
    (found : tree.walk follow here names = .ok spot) : tree.Fits spot := by
  induction names generalizing here with
  | nil =>
      obtain rfl := Except.ok.inj found
      trivial
  | cons name rest ih =>
      cases strides_of_walk found with
      | stays same onward => exact ih here onward
      | up other same onward => exact ih here.tail onward
      | free plain absent last => exact ⟨List.cons_ne_nil _ _, absent⟩
      | file plain there last => exact there
      | directory plain there onward => exact ih (name :: here) onward
      | link plain there linked => exact followed _ _ _ linked

end Walk

theorem Growth.walkOver {tree later : FileTree} (growth : tree.Growth later) (links : Nat)
    (here : Place) (names : List String) (place : Place) (entry : Entry)
    (found : tree.walkOver links here names = .ok (.taken place entry)) :
    ∃ now, later.walkOver links here names = .ok (.taken place now) ∧ entry.Becomes now := by
  induction links generalizing here names place entry with
  | zero => exact growth.walk (fun _ _ _ _ none => by cases none) names here place entry found
  | succ links ih => exact growth.walk ih names here place entry found

theorem fits_of_walkOver (tree : FileTree) (links : Nat) (here : Place) (names : List String)
    (spot : Spot) (found : tree.walkOver links here names = .ok spot) : tree.Fits spot := by
  induction links generalizing here names spot with
  | zero => exact fits_of_walk (fun _ _ _ none => by cases none) names here spot found
  | succ links ih => exact fits_of_walk ih names here spot found

theorem fits_of_find {tree : FileTree} {path : String} {spot : Spot}
    (found : tree.find path = .ok spot) : tree.Fits spot := by
  unfold find at found
  split_ifs at found <;> exact fits_of_walkOver _ _ _ _ _ found

theorem Growth.find {tree later : FileTree} (growth : tree.Growth later) {path : String}
    {place : Place} {entry : Entry} (found : tree.find path = .ok (.taken place entry)) :
    ∃ now, later.find path = .ok (.taken place now) ∧ entry.Becomes now := by
  unfold FileTree.find at found ⊢
  rw [growth.current]
  split_ifs at found ⊢ <;> exact growth.walkOver _ _ _ _ _ found

theorem Growth.canonicalPath? {tree later : FileTree} (growth : tree.Growth later)
    {path canonical : String} (leads : tree.canonicalPath? path = some canonical) :
    later.canonicalPath? path = some canonical := by
  unfold FileTree.canonicalPath? at leads ⊢
  split at leads
  · rename_i place entry found
    obtain ⟨now, foundNow, becomes⟩ := growth.find found
    rw [foundNow]
    exact leads
  · cases leads

/-! ## Writes -/

theorem entryIn_setEntryIn (place other : Place) (entry : Entry)
    (entries : List (Place × Entry)) :
    entryIn other (setEntryIn place entry entries) =
      if other = place then some entry else entryIn other entries := by
  induction entries with
  | nil =>
      by_cases same : other = place
      · simp [setEntryIn, entryIn, same]
      · simp [setEntryIn, entryIn, same]
  | cons head rest ih =>
      obtain ⟨here, old⟩ := head
      by_cases found : place = here
      · subst found
        by_cases same : other = place
        · simp [setEntryIn, entryIn, same]
        · simp [setEntryIn, entryIn, same]
      · by_cases same : other = here
        · subst same
          simp [setEntryIn, entryIn, found, Ne.symm found]
        · simp [setEntryIn, entryIn, found, same, ih]

theorem entry?_setEntry (tree : FileTree) {place : Place} (below : place ≠ []) (other : Place)
    (entry : Entry) :
    FileTree.entry? (tree.setEntry place entry) other =
      if other = place then some entry else tree.entry? other := by
  cases other with
  | nil =>
      rw [if_neg (Ne.symm below)]
      rfl
  | cons name rest => exact entryIn_setEntryIn place (name :: rest) entry tree.entries

theorem growth_setEntry {tree : FileTree} {place : Place} (below : place ≠ [])
    (free : ∀ entry, tree.entry? place = some entry → ∃ bytes, entry = .file bytes)
    (bytes : List UInt8) : tree.Growth (tree.setEntry place (.file bytes)) := by
  refine ⟨rfl, ?_⟩
  intro other entry found
  rw [ entry?_setEntry tree below]
  by_cases same : other = place
  · subst same
    obtain ⟨old, rfl⟩ := free entry found
    exact ⟨.file bytes, if_pos rfl, trivial⟩
  · exact ⟨entry, by rw [if_neg same, found], .refl entry⟩

/-- A write changes the entry at the one place that its path leads to. -/
theorem write_eq_setEntry {tree later : FileTree} {path : String} {bytes : List UInt8}
    (written : tree.write path bytes = .ok later) :
    ∃ place, place ≠ [] ∧ later = tree.setEntry place (.file bytes) ∧
      ∀ entry, tree.entry? place = some entry → ∃ old, entry = .file old := by
  unfold write at written
  split at written
  · cases written
  · rename_i place found
    obtain ⟨below, free⟩ := fits_of_find found
    refine ⟨place, below, (Except.ok.inj written).symm, ?_⟩
    intro entry there
    rw [free] at there
    cases there
  · rename_i place old found
    have there : tree.entry? place = some (.file old) := fits_of_find found
    refine ⟨place, ?_, (Except.ok.inj written).symm, ?_⟩
    · rintro rfl
      cases there
    · intro entry same
      rw [there] at same
      exact ⟨old, (Option.some.inj same).symm⟩
  · cases written

theorem growth_of_write {tree later : FileTree} {path : String} {bytes : List UInt8}
    (written : tree.write path bytes = .ok later) : tree.Growth later := by
  obtain ⟨place, below, rfl, free⟩ := write_eq_setEntry written
  exact growth_setEntry below free bytes

/-! ## Where relative paths start

Nobody moves the place where relative paths start, not even with changes that are no growth. -/

theorem current_makeDirectoriesFrom (tree : FileTree) (path : String) (names : List String) :
    (tree.makeDirectoriesFrom path names).current = tree.current := by
  induction names generalizing tree path with
  | nil => rfl
  | cons name rest ih =>
      rw [makeDirectoriesFrom, ih]
      split <;> rfl

theorem current_putFile (tree : FileTree) (path : String) (bytes : List UInt8) :
    (tree.putFile path bytes).current = tree.current := by
  have directories : (tree.makeDirectories (splitLast path).1).current = tree.current :=
    current_makeDirectoriesFrom ..
  simp only [putFile]
  generalize tree.makeDirectories (splitLast path).1 = base at directories ⊢
  cases written : base.write path bytes with
  | error fault => exact directories
  | ok later => exact (growth_of_write written).current.trans directories

theorem current_removeFile (tree : FileTree) (path : String) :
    (tree.removeFile path).current = tree.current := by
  unfold removeFile
  split
  · split <;> rfl
  · rfl

end FileTree

/-! ## Settled locations -/

/-- A location whose identity no write changes. -/
def Location.Settled (location : Location) (tree : FileTree) : Prop :=
  ∀ later, tree.Growth later → location.identity later = location.identity tree

theorem Location.Settled.later {location : Location} {tree later : FileTree}
    (settled : location.Settled tree) (growth : tree.Growth later) : location.Settled later := by
  intro last more
  rw [settled last (growth.trans more), settled later growth]

theorem Location.settled_remote (url : String) (tree : FileTree) :
    (Location.remote url).Settled tree :=
  fun _ _ => rfl

theorem Location.settled_of_isFile {tree : FileTree} {path : String}
    (isFile : tree.isFile path = true) : (Location.file path).Settled tree := by
  intro later growth
  unfold FileTree.isFile at isFile
  split at isFile
  · rename_i place bytes found
    have leads : tree.canonicalPath? path = some place.path := by
      rw [FileTree.canonicalPath?, found]
    simp only [Location.identity, leads, growth.canonicalPath? leads]
  · cases isFile

end LayeredConfig
