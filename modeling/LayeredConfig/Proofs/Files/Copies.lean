import LayeredConfig.Proofs.Files.Footprint
import Mathlib.Data.List.Induction

/-!
# Files written again

A row of files may be written one after the other, some of them over earlier ones.  Written once
more in the same order, the row leaves the tree as the first time has left it.  A path that ends at
none of these files cannot tell whether they have been written: it leads to the same place before
and after, or nowhere both times.
-/

set_option autoImplicit false

namespace LayeredConfig

open Files

namespace Files

/-- The bytes for a file and the place where they are put. -/
structure Copy where
  place : Place
  bytes : List UInt8

end Files

namespace FileTree

/-! ## Rows of writes -/

/-- The tree after some files were written, one after the other. -/
def putCopies (tree : FileTree) (copies : List Copy) : FileTree :=
  copies.foldl (fun tree copy => tree.setEntry copy.place (.file copy.bytes)) tree

@[simp] theorem putCopies_nil (tree : FileTree) : tree.putCopies [] = tree := rfl

@[simp] theorem putCopies_cons (tree : FileTree) (copy : Copy) (copies : List Copy) :
    tree.putCopies (copy :: copies) =
      (tree.setEntry copy.place (.file copy.bytes)).putCopies copies := rfl

theorem putCopies_append (tree : FileTree) (first second : List Copy) :
    tree.putCopies (first ++ second) = (tree.putCopies first).putCopies second :=
  List.foldl_append ..

theorem setEntryIn_setEntryIn (place : Place) (old entry : Entry)
    (entries : List (Place × Entry)) :
    setEntryIn place entry (setEntryIn place old entries) = setEntryIn place entry entries := by
  induction entries with
  | nil => simp [setEntryIn]
  | cons head rest ih =>
      obtain ⟨here, former⟩ := head
      by_cases found : place = here
      · simp [setEntryIn, found]
      · simp [setEntryIn, found, ih]

/-- Entries at two places may be set in either order once one of the places has an entry: the other
one then stays behind it or in front of it. -/
theorem setEntryIn_comm {place other : Place} (apart : place ≠ other) (entry another : Entry)
    {entries : List (Place × Entry)} (listed : place ∈ entries.map Prod.fst) :
    setEntryIn place entry (setEntryIn other another entries) =
      setEntryIn other another (setEntryIn place entry entries) := by
  induction entries with
  | nil => cases listed
  | cons head rest ih =>
      obtain ⟨here, former⟩ := head
      by_cases found : place = here
      · subst found
        simp [setEntryIn, Ne.symm apart]
      · have behind : place ∈ rest.map Prod.fst :=
          (List.mem_cons.mp listed).resolve_left found
        by_cases foundOther : other = here
        · simp [setEntryIn, found, foundOther]
        · simp [setEntryIn, found, foundOther, ih behind]

theorem listed_setEntryIn {place other : Place} (entry : Entry) {entries : List (Place × Entry)} :
    place ∈ (setEntryIn other entry entries).map Prod.fst ↔
      place = other ∨ place ∈ entries.map Prod.fst := by
  induction entries with
  | nil => simp [setEntryIn]
  | cons head rest ih =>
      obtain ⟨here, former⟩ := head
      by_cases found : other = here
      · simp [setEntryIn, found]
      · simp only [setEntryIn, if_neg found, List.map_cons, List.mem_cons, ih]
        exact or_left_comm

/-- The place has an entry of its own in the list of entries. -/
def Lists (tree : FileTree) (place : Place) : Prop :=
  place ∈ tree.entries.map Prod.fst

theorem lists_setEntry {tree : FileTree} {place another : Place} (entry : Entry)
    (listed : another = place ∨ tree.Lists another) : (tree.setEntry place entry).Lists another :=
  (listed_setEntryIn entry).mpr listed

theorem lists_putCopies {tree : FileTree} {copies : List Copy} {place : Place}
    (listed : place ∈ copies.map Copy.place ∨ tree.Lists place) :
    (tree.putCopies copies).Lists place := by
  induction copies generalizing tree with
  | nil => simpa using listed
  | cons copy copies ih =>
      rw [List.map_cons, List.mem_cons, or_assoc, or_left_comm] at listed
      exact ih (listed.imp_right (lists_setEntry _))

theorem setEntry_putCopies_setEntry {tree : FileTree} (place : Place) (entry : Entry)
    {copies : List Copy} (listed : ∀ copy ∈ copies, tree.Lists copy.place) :
    ((tree.setEntry place entry).putCopies copies).setEntry place entry =
      (tree.putCopies copies).setEntry place entry := by
  induction copies generalizing tree with
  | nil =>
      simp only [putCopies_nil, setEntry, setEntryIn_setEntryIn]
  | cons copy copies ih =>
      have listedLater : ∀ other ∈ copies,
          (tree.setEntry copy.place (.file copy.bytes)).Lists other.place := fun other member =>
        lists_setEntry _ (.inr (listed other (List.mem_cons_of_mem _ member)))
      rw [putCopies_cons, putCopies_cons]
      by_cases same : copy.place = place
      · simp only [setEntry, same, setEntryIn_setEntryIn]
      · have swapped : (tree.setEntry place entry).setEntry copy.place (.file copy.bytes) =
            (tree.setEntry copy.place (.file copy.bytes)).setEntry place entry := by
          simp only [setEntry]
          rw [setEntryIn_comm same _ _ (listed copy (List.mem_cons_self ..))]
        rw [swapped]
        exact ih listedLater

/-- Files that are written once more in the same order are as before. -/
theorem putCopies_putCopies (tree : FileTree) (copies : List Copy) :
    (tree.putCopies copies).putCopies copies = tree.putCopies copies := by
  -- By induction from the last file, which the second row puts over its own copy.
  induction copies using List.reverseRecOn with
  | nil => rfl
  | append_singleton copies copy ih =>
      have listed : ∀ other ∈ copies, (tree.putCopies copies).Lists other.place :=
        fun other member => lists_putCopies (.inl (List.mem_map_of_mem member))
      calc (tree.putCopies (copies ++ [copy])).putCopies (copies ++ [copy])
          = (((tree.putCopies copies).setEntry copy.place (.file copy.bytes)).putCopies
              copies).setEntry copy.place (.file copy.bytes) := by
            rw [putCopies_append, putCopies_append]
            rfl
        _ = ((tree.putCopies copies).putCopies copies).setEntry copy.place (.file copy.bytes) :=
            setEntry_putCopies_setEntry _ _ listed
        _ = tree.putCopies (copies ++ [copy]) := by
            rw [ih, putCopies_append]
            rfl

/-! ## Following a path before and after -/

/-- Two outcomes of following a path that differ at most in the bytes of a file at one of some
places, or in the fault. -/
inductive LeadsAlike (places : Place → Prop) : Except Fault Spot → Except Fault Spot → Prop where
  | same (outcome : Except Fault Spot) : LeadsAlike places outcome outcome
  | ends {place : Place} {first second : Except Fault Spot} (differ : places place)
      (ends : EndsAt place first) (endsToo : EndsAt place second) : LeadsAlike places first second
  | nowhere (first second : Fault) : LeadsAlike places (.error first) (.error second)

section Walk

variable {places : Place → Prop} {tree other : FileTree}
  {follow followOther : Place → List String → Except Fault Spot}

theorem walk_beyond_file (follow : Place → List String → Except Fault Spot) {name : String}
    (plain : Plain name) {here : Place} {next : String} {more : List String}
    (takes : tree.TakesFile (name :: here)) :
    ∃ fault, tree.walk follow here (name :: next :: more) = .error fault := by
  rw [walk_plain plain]
  cases there : tree.entry? (name :: here) with
  | none => exact ⟨_, rfl⟩
  | some entry =>
      obtain ⟨bytes, rfl⟩ := takes entry there
      exact ⟨_, rfl⟩

/-- A walk leads alike in two trees that both take a file wherever they differ. -/
theorem leadsAlike_walk (same : ∀ place, ¬ places place → other.entry? place = tree.entry? place)
    (takes : ∀ place, places place → tree.TakesFile place ∧ other.TakesFile place)
    (followed : ∀ here names,
      LeadsAlike places (follow here names) (followOther here names))
    (names : List String) (here : Place) :
    LeadsAlike places (tree.walk follow here names) (other.walk followOther here names) := by
  induction names generalizing here with
  | nil => exact .same _
  | cons name rest ih =>
      by_cases stays : name = sameDirectory
      · simp only [FileTree.walk, if_pos stays]
        exact ih here
      · by_cases up : name = parentDirectory
        · simp only [FileTree.walk, if_neg stays, if_pos up]
          exact ih here.tail
        · by_cases long : maxNameBytes < name.utf8ByteSize
          · simp only [FileTree.walk, if_neg stays, if_neg up, if_pos long]
            exact .same _
          · have plain : Plain name := ⟨stays, up, long⟩
            by_cases differs : places (name :: here)
            · -- Here is a file or nothing in both trees, so the path ends here or leads nowhere.
              obtain ⟨takesHere, takesToo⟩ := takes _ differs
              cases rest with
              | nil =>
                  exact .ends differs (endsAt_walk_last plain takesHere)
                    (endsAt_walk_last plain takesToo)
              | cons next more =>
                  obtain ⟨fault, failed⟩ := walk_beyond_file follow plain takesHere
                  obtain ⟨faultToo, failedToo⟩ := walk_beyond_file followOther plain takesToo
                  rw [failed, failedToo]
                  exact .nowhere fault faultToo
            · rw [walk_plain plain, walk_plain plain, same _ differs]
              cases tree.entry? (name :: here) with
              | none => exact .same _
              | some entry =>
                  cases entry with
                  | file bytes => exact .same _
                  | directory => exact ih (name :: here)
                  | link target => exact followed _ _

theorem leadsAlike_walkOver
    (same : ∀ place, ¬ places place → other.entry? place = tree.entry? place)
    (takes : ∀ place, places place → tree.TakesFile place ∧ other.TakesFile place) (links : Nat)
    (here : Place) (names : List String) :
    LeadsAlike places (tree.walkOver links here names) (other.walkOver links here names) := by
  induction links generalizing here names with
  | zero => exact leadsAlike_walk same takes (fun _ _ => .same _) names here
  | succ links ih => exact leadsAlike_walk same takes ih names here

end Walk

section Paths

variable {places : Place → Prop} {tree other : FileTree} {path : String}

/-- Two trees that differ at some places only.  Both take a file there. -/
structure DiffersInFiles (places : Place → Prop) (tree other : FileTree) : Prop
    extends DiffersAt places places tree other where
  takesToo : ∀ place, places place → tree.TakesFile place

theorem DiffersInFiles.leadsAlike (differs : tree.DiffersInFiles places other) (path : String) :
    LeadsAlike places (tree.find path) (other.find path) := by
  have both : ∀ place, places place → tree.TakesFile place ∧ other.TakesFile place :=
    fun place differ => ⟨differs.takesToo place differ, differs.takes place differ⟩
  unfold FileTree.find
  rw [differs.current]
  split_ifs
  · exact .same _
  · exact .same _
  · exact .same _
  · exact leadsAlike_walkOver differs.same both _ _ _
  · exact leadsAlike_walkOver differs.same both _ _ _

theorem DiffersInFiles.symm (differs : tree.DiffersInFiles places other) :
    other.DiffersInFiles places tree :=
  ⟨⟨differs.current.symm, fun another apart => (differs.same another apart).symm,
    differs.takesToo⟩, differs.takes⟩

theorem EndsAt.unique {place another : Place} {outcome : Except Fault Spot}
    (ends : EndsAt place outcome) (endsToo : EndsAt another outcome) : another = place := by
  cases ends <;> cases endsToo <;> rfl

theorem LeadsAlike.endsAt {first second : Except Fault Spot} {place : Place}
    (alike : LeadsAlike places first second) (ends : EndsAt place first) :
    EndsAt place second := by
  cases alike with
  | same outcome => exact ends
  | ends differ endsFirst endsSecond =>
      obtain rfl := endsFirst.unique ends
      exact endsSecond
  | nowhere fault faultToo => cases ends

/-- Whoever does not come to one of the places comes to the same, or nowhere both times. -/
theorem LeadsAlike.eq_or_nowhere {first second : Except Fault Spot}
    (alike : LeadsAlike places first second)
    (apart : ∀ place, places place → ¬ EndsAt place first) :
    second = first ∨ ∃ fault faultToo, first = .error fault ∧ second = .error faultToo := by
  cases alike with
  | same outcome => exact .inl rfl
  | ends differ ends endsToo => exact absurd ends (apart _ differ)
  | nowhere fault faultToo => exact .inr ⟨fault, faultToo, rfl, rfl⟩

section Apart

variable (differs : tree.DiffersInFiles places other)
  (apart : ∀ place, places place → ¬ EndsAt place (tree.find path))

include differs apart

theorem DiffersInFiles.isFile_eq : other.isFile path = tree.isFile path := by
  unfold isFile
  rcases (differs.leadsAlike path).eq_or_nowhere apart with
    same | ⟨fault, faultToo, failed, failedToo⟩
  · rw [same]
  · rw [failed, failedToo]

theorem DiffersInFiles.canonicalPath?_eq :
    other.canonicalPath? path = tree.canonicalPath? path := by
  unfold canonicalPath?
  rcases (differs.leadsAlike path).eq_or_nowhere apart with
    same | ⟨fault, faultToo, failed, failedToo⟩
  · rw [same]
  · rw [failed, failedToo]

theorem DiffersInFiles.read_eq (isFile : tree.isFile path = true) :
    other.read path = tree.read path := by
  rcases (differs.leadsAlike path).eq_or_nowhere apart with
    same | ⟨fault, faultToo, failed, -⟩
  · rw [read, read, same]
  · rw [FileTree.isFile, failed] at isFile
    cases isFile

end Apart

end Paths

/-! ## The places of a row -/

section Rows

variable {tree : FileTree} {copies : List Copy} {place : Place}

theorem entry?_putCopies_of_not_mem (below : ∀ copy ∈ copies, copy.place ≠ [])
    (apart : place ∉ copies.map Copy.place) :
    FileTree.entry? (tree.putCopies copies) place = tree.entry? place := by
  induction copies generalizing tree with
  | nil => rfl
  | cons copy copies ih =>
      obtain ⟨belowHere, belowLater⟩ := List.forall_mem_cons.mp below
      rw [List.map_cons, List.mem_cons, not_or] at apart
      rw [putCopies_cons, ih belowLater apart.2, entry?_setEntry _ belowHere, if_neg apart.1]

theorem takesFile_setEntry (below : place ≠ []) (bytes : List UInt8) {another : Place}
    (takes : another = place ∨ tree.TakesFile another) :
    (tree.setEntry place (.file bytes)).TakesFile another := by
  intro entry there
  rw [entry?_setEntry tree below] at there
  split_ifs at there with same
  · exact ⟨bytes, (Option.some.inj there).symm⟩
  · exact takes.resolve_left same entry there

theorem takesFile_putCopies (below : ∀ copy ∈ copies, copy.place ≠ [])
    (takes : place ∈ copies.map Copy.place ∨ tree.TakesFile place) :
    (tree.putCopies copies).TakesFile place := by
  induction copies generalizing tree with
  | nil => simpa using takes
  | cons copy copies ih =>
      obtain ⟨belowHere, belowLater⟩ := List.forall_mem_cons.mp below
      rw [List.map_cons, List.mem_cons, or_assoc, or_left_comm] at takes
      exact ih belowLater (takes.imp_right (takesFile_setEntry belowHere copy.bytes))

theorem current_putCopies (tree : FileTree) (copies : List Copy) :
    (tree.putCopies copies).current = tree.current := by
  induction copies generalizing tree with
  | nil => rfl
  | cons copy copies ih => exact ih _

/-- A place that takes a file after some writes has taken one before. -/
theorem Growth.takesFile {later : FileTree} (growth : tree.Growth later)
    (takes : later.TakesFile place) : tree.TakesFile place := by
  intro entry there
  obtain ⟨now, thereNow, becomes⟩ := growth.kept place entry there
  obtain ⟨bytes, rfl⟩ := takes now thereNow
  cases entry with
  | file old => exact ⟨old, rfl⟩
  | directory => cases Entry.becomes_directory.mp becomes
  | link target => cases Entry.becomes_link.mp becomes

theorem differsInFiles_putCopies (below : ∀ copy ∈ copies, copy.place ≠ [])
    (growth : tree.Growth (tree.putCopies copies)) :
    tree.DiffersInFiles (· ∈ copies.map Copy.place) (tree.putCopies copies) where
  current := current_putCopies tree copies
  same _ apart := entry?_putCopies_of_not_mem below apart
  takes _ member := takesFile_putCopies below (.inl member)
  takesToo _ member := growth.takesFile (takesFile_putCopies below (.inl member))

theorem DiffersInFiles.setEntry {places : Place → Prop} {other : FileTree}
    (differs : tree.DiffersInFiles places other) (below : place ≠ []) (bytes : List UInt8) :
    (tree.setEntry place (.file bytes)).DiffersInFiles places
      (other.setEntry place (.file bytes)) where
  toDiffersAt := differs.toDiffersAt.setEntry below bytes
  takesToo another differ := takesFile_setEntry below bytes (.inr (differs.takesToo another differ))

theorem DiffersInFiles.putCopies {places : Place → Prop} {other : FileTree}
    (differs : tree.DiffersInFiles places other) (below : ∀ copy ∈ copies, copy.place ≠ []) :
    (tree.putCopies copies).DiffersInFiles places (other.putCopies copies) := by
  induction copies generalizing tree other with
  | nil => exact differs
  | cons copy copies ih =>
      obtain ⟨belowHere, belowLater⟩ := List.forall_mem_cons.mp below
      exact ih (differs.setEntry belowHere copy.bytes) belowLater

/-- More files at the places of a difference make no further difference. -/
theorem DiffersInFiles.putCopies_left {places : Place → Prop} {other : FileTree}
    (differs : tree.DiffersInFiles places other) (below : ∀ copy ∈ copies, copy.place ≠ [])
    (within : ∀ copy ∈ copies, places copy.place) :
    (tree.putCopies copies).DiffersInFiles places other where
  current := by rw [current_putCopies, differs.current]
  same place apart := by
    have unwritten : place ∉ copies.map Copy.place := by
      intro written
      obtain ⟨copy, member, rfl⟩ := List.mem_map.mp written
      exact apart (within copy member)
    rw [entry?_putCopies_of_not_mem below unwritten, differs.same place apart]
  takes := differs.takes
  takesToo place differ := takesFile_putCopies below (.inr (differs.takesToo place differ))

end Rows

end FileTree

end LayeredConfig
