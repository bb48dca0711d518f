import LayeredConfig.Proofs.Files.Growth

/-!
# The footprint of a path

Where a path leads depends on the places that it is followed over and on nothing else in the tree.
So a tree may be changed at all other places, and whoever reads along the path does not notice.  A
file that is written at the end of a path may even differ in both trees before: it is there in both
afterwards.
-/

set_option autoImplicit false

namespace LayeredConfig

open Files

namespace FileTree

/-! ## The places on a path -/

/-- The places that a walk over names looks at, in order. -/
def placesOnWalk (tree : FileTree) (follow : Place → List String → List Place) (here : Place) :
    List String → List Place
  | [] => []
  | name :: rest =>
      if name = sameDirectory then placesOnWalk tree follow here rest
      else if name = parentDirectory then placesOnWalk tree follow here.tail rest
      else if maxNameBytes < name.utf8ByteSize then []
      else
        (name :: here) ::
          match tree.entry? (name :: here) with
          | some .directory => placesOnWalk tree follow (name :: here) rest
          | some (.link target) =>
              follow (if isAbsolute target then [] else here) (pathNames target ++ rest)
          | _ => []

def placesOver (tree : FileTree) : Nat → Place → List String → List Place
  | 0 => tree.placesOnWalk fun _ _ => []
  | links + 1 => tree.placesOnWalk (tree.placesOver links)

/-- The places that are looked at where a path is followed, in order. -/
def placesOn (tree : FileTree) (path : String) : List Place :=
  if path.isEmpty then []
  else if path.toList.contains '\x00' then []
  else if maxPathBytes < path.utf8ByteSize then []
  else tree.placesOver maxLinks (if isAbsolute path then [] else tree.current) (pathNames path)

/-! ## Trees that differ -/

/-- At a place that takes a file there is a file or nothing. -/
def TakesFile (tree : FileTree) (place : Place) : Prop :=
  ∀ entry, tree.entry? place = some entry → ∃ bytes, entry = .file bytes

/-- The outcome of following a path to a place where a file is or can be put. -/
inductive EndsAt (place : Place) : Except Fault Spot → Prop where
  | file (bytes : List UInt8) : EndsAt place (.ok (.taken place (.file bytes)))
  | free : EndsAt place (.ok (.free place))

/-- Two trees that differ at some places only.  At the loose places the other tree takes a file. -/
structure DiffersAt (places loose : Place → Prop) (tree other : FileTree) : Prop where
  current : other.current = tree.current
  same : ∀ place, ¬ places place → other.entry? place = tree.entry? place
  takes : ∀ place, loose place → other.TakesFile place

/-- On a path there are none of some places but the one where it ends, and there both trees take a
file. -/
def Spared (places : Place → Prop) (tree other : FileTree) (passed : List Place)
    (outcome : Except Fault Spot) : Prop :=
  ∀ place ∈ passed, places place →
    EndsAt place outcome ∧ tree.TakesFile place ∧ other.TakesFile place

/-- Two outcomes that are the same, or both end at one of some places on the path. -/
def EndsAlike (places : Place → Prop) (passed : List Place) (first second : Except Fault Spot) :
    Prop :=
  second = first ∨ ∃ place ∈ passed, places place ∧ EndsAt place first ∧ EndsAt place second

section Walk

variable {places : Place → Prop} {tree other : FileTree}
  {follow followOther : Place → List String → Except Fault Spot}
  {looks : Place → List String → List Place}

theorem placesOnWalk_plain {name : String} (plain : Plain name) (here : Place)
    (rest : List String) :
    tree.placesOnWalk looks here (name :: rest) =
      (name :: here) ::
        match tree.entry? (name :: here) with
        | some .directory => tree.placesOnWalk looks (name :: here) rest
        | some (.link target) =>
            looks (if isAbsolute target then [] else here) (pathNames target ++ rest)
        | _ => [] := by
  rw [placesOnWalk, if_neg plain.notHere, if_neg plain.notUp, if_neg plain.short]

theorem walk_plain {name : String} (plain : Plain name) (here : Place) (rest : List String) :
    tree.walk follow here (name :: rest) =
      match tree.entry? (name :: here) with
      | none => if rest.isEmpty then .ok (.free (name :: here)) else .error .notFound
      | some (.file bytes) =>
          if rest.isEmpty then .ok (.taken (name :: here) (.file bytes))
          else .error .notADirectory
      | some .directory => tree.walk follow (name :: here) rest
      | some (.link target) =>
          follow (if isAbsolute target then [] else here) (pathNames target ++ rest) :=
  (if_neg plain.notHere).trans ((if_neg plain.notUp).trans (if_neg plain.short))

/-- A walk that ends at the next place has no more names to follow. -/
theorem endsAt_of_takesFile {name : String} (plain : Plain name) {here : Place}
    {rest : List String} (takes : tree.TakesFile (name :: here))
    (ends : EndsAt (name :: here) (tree.walk follow here (name :: rest))) : rest = [] := by
  rw [walk_plain plain] at ends
  cases rest with
  | nil => rfl
  | cons next more =>
      cases there : tree.entry? (name :: here) with
      | none =>
          rw [there] at ends
          cases ends
      | some entry =>
          obtain ⟨bytes, rfl⟩ := takes entry there
          rw [there] at ends
          cases ends

theorem endsAt_walk_last {name : String} (plain : Plain name) {here : Place}
    (takes : other.TakesFile (name :: here)) :
    EndsAt (name :: here) (other.walk followOther here [name]) := by
  rw [walk_plain plain]
  cases there : other.entry? (name :: here) with
  | none => exact .free
  | some entry =>
      obtain ⟨bytes, rfl⟩ := takes entry there
      exact .file bytes

/-- A walk that spares the places of a difference ends alike in both trees, if links are followed
alike. -/
theorem endsAlike_walk (same : ∀ place, ¬ places place → other.entry? place = tree.entry? place)
    (followed : ∀ here names, Spared places tree other (looks here names) (follow here names) →
      EndsAlike places (looks here names) (follow here names) (followOther here names))
    (names : List String) (here : Place)
    (spared : Spared places tree other (tree.placesOnWalk looks here names)
      (tree.walk follow here names)) :
    EndsAlike places (tree.placesOnWalk looks here names) (tree.walk follow here names)
      (other.walk followOther here names) := by
  induction names generalizing here with
  | nil => exact .inl rfl
  | cons name rest ih =>
      by_cases stays : name = sameDirectory
      · simp only [placesOnWalk, FileTree.walk, if_pos stays] at spared ⊢
        exact ih here spared
      · by_cases up : name = parentDirectory
        · simp only [placesOnWalk, FileTree.walk, if_neg stays, if_pos up] at spared ⊢
          exact ih here.tail spared
        · by_cases long : maxNameBytes < name.utf8ByteSize
          · simp only [FileTree.walk, if_neg stays, if_neg up, if_pos long]
            exact .inl rfl
          · have plain : Plain name := ⟨stays, up, long⟩
            by_cases differs : places (name :: here)
            · -- The path ends here, at a place where a file is or can be put in both trees.
              have first : (name :: here) ∈ tree.placesOnWalk looks here (name :: rest) := by
                rw [placesOnWalk_plain plain]
                exact List.mem_cons_self ..
              obtain ⟨ends, takes, takesToo⟩ := spared _ first differs
              obtain rfl := endsAt_of_takesFile plain takes ends
              exact .inr ⟨_, first, differs, ends, endsAt_walk_last plain takesToo⟩
            · have sameEntry := same _ differs
              rw [placesOnWalk_plain plain, walk_plain plain] at spared ⊢
              rw [walk_plain plain, sameEntry]
              cases there : tree.entry? (name :: here) with
              | none => exact .inl rfl
              | some entry =>
                  rw [there] at spared
                  cases entry with
                  | file bytes => exact .inl rfl
                  | directory =>
                      have deeper := ih (name :: here) fun place member =>
                        spared place (List.mem_cons_of_mem _ member)
                      rcases deeper with equal | ⟨place, member, ends⟩
                      · exact .inl equal
                      · exact .inr ⟨place, List.mem_cons_of_mem _ member, ends⟩
                  | link target =>
                      have linked := followed _ _ fun place member =>
                        spared place (List.mem_cons_of_mem _ member)
                      rcases linked with equal | ⟨place, member, ends⟩
                      · exact .inl equal
                      · exact .inr ⟨place, List.mem_cons_of_mem _ member, ends⟩

theorem endsAlike_walkOver
    (same : ∀ place, ¬ places place → other.entry? place = tree.entry? place) (links : Nat)
    (here : Place) (names : List String)
    (spared : Spared places tree other (tree.placesOver links here names)
      (tree.walkOver links here names)) :
    EndsAlike places (tree.placesOver links here names) (tree.walkOver links here names)
      (other.walkOver links here names) := by
  induction links generalizing here names with
  | zero => exact endsAlike_walk same (fun _ _ _ => .inl rfl) names here spared
  | succ links ih => exact endsAlike_walk same ih names here spared

end Walk

/-! ## Following a path in both trees -/

section Paths

variable {places loose : Place → Prop} {tree other : FileTree} {path : String}

theorem takesFile_of_endsAt {place : Place} (ends : EndsAt place (tree.find path)) :
    tree.TakesFile place := by
  intro entry there
  generalize found : tree.find path = outcome at ends
  cases ends with
  | file bytes =>
      have file : tree.entry? place = some (.file bytes) := fits_of_find found
      exact ⟨bytes, Option.some.inj (there.symm.trans file)⟩
  | free =>
      obtain ⟨-, absent⟩ := fits_of_find found
      rw [absent] at there
      cases there

theorem ne_root_of_endsAt {place : Place} (ends : EndsAt place (tree.find path)) : place ≠ [] := by
  rintro rfl
  obtain ⟨bytes, impossible⟩ := takesFile_of_endsAt ends .directory rfl
  cases impossible

theorem endsAlike_find (differs : tree.DiffersAt places loose other)
    (spared : ∀ place ∈ tree.placesOn path, places place →
      EndsAt place (tree.find path) ∧ loose place) :
    EndsAlike places (tree.placesOn path) (tree.find path) (other.find path) := by
  have both : Spared places tree other (tree.placesOn path) (tree.find path) := by
    intro place member differ
    obtain ⟨ends, free⟩ := spared place member differ
    exact ⟨ends, takesFile_of_endsAt ends, differs.takes place free⟩
  unfold placesOn FileTree.find at both ⊢
  rw [differs.current]
  split_ifs at both ⊢ with empty nul long
  · exact .inl rfl
  · exact .inl rfl
  · exact .inl rfl
  · exact endsAlike_walkOver differs.same _ _ _ both
  · exact endsAlike_walkOver differs.same _ _ _ both

/-- Whoever follows a path past none of the places of a difference comes to the same. -/
theorem DiffersAt.find_eq (differs : tree.DiffersAt places loose other)
    (apart : ∀ place ∈ tree.placesOn path, ¬ places place) :
    other.find path = tree.find path := by
  have alike := endsAlike_find differs fun place member differ => absurd differ (apart place member)
  rcases alike with same | ⟨place, member, differ, -⟩
  · exact same
  · exact absurd differ (apart place member)

theorem DiffersAt.isFile_eq (differs : tree.DiffersAt places loose other)
    (apart : ∀ place ∈ tree.placesOn path, ¬ places place) :
    other.isFile path = tree.isFile path := by
  rw [isFile, isFile, differs.find_eq apart]

theorem DiffersAt.read_eq (differs : tree.DiffersAt places loose other)
    (apart : ∀ place ∈ tree.placesOn path, ¬ places place) : other.read path = tree.read path := by
  rw [read, read, differs.find_eq apart]

theorem DiffersAt.canonicalPath?_eq (differs : tree.DiffersAt places loose other)
    (apart : ∀ place ∈ tree.placesOn path, ¬ places place) :
    other.canonicalPath? path = tree.canonicalPath? path := by
  rw [canonicalPath?, canonicalPath?, differs.find_eq apart]

/-! ## Writing in both trees -/

/-- A place that changes by writes takes a file. -/
theorem Growth.takesFile_of_ne {later : FileTree} (growth : tree.Growth later) {place : Place}
    (changed : later.entry? place ≠ tree.entry? place) : tree.TakesFile place := by
  intro entry there
  obtain ⟨now, thereNow, becomes⟩ := growth.kept place entry there
  cases entry with
  | file bytes => exact ⟨bytes, rfl⟩
  | directory =>
      rw [there, thereNow, Entry.becomes_directory.mp becomes] at changed
      exact absurd rfl changed
  | link target =>
      rw [there, thereNow, Entry.becomes_link.mp becomes] at changed
      exact absurd rfl changed

theorem write_of_endsAt {place : Place} (ends : EndsAt place (tree.find path))
    (bytes : List UInt8) : tree.write path bytes = .ok (tree.setEntry place (.file bytes)) := by
  unfold write
  generalize tree.find path = outcome at ends
  cases ends <;> rfl

theorem DiffersAt.setEntry (differs : tree.DiffersAt places loose other) {place : Place}
    (below : place ≠ []) (bytes : List UInt8) :
    (tree.setEntry place (.file bytes)).DiffersAt places loose
      (other.setEntry place (.file bytes)) := by
  refine ⟨differs.current, ?_, ?_⟩
  · intro another apart
    rw [entry?_setEntry tree below, entry?_setEntry other below, differs.same another apart]
  · intro another free entry there
    rw [entry?_setEntry other below] at there
    split_ifs at there with here
    · exact ⟨bytes, (Option.some.inj there).symm⟩
    · exact differs.takes another free entry there

theorem endsAt_of_write {later : FileTree} {bytes : List UInt8}
    (written : tree.write path bytes = .ok later) :
    ∃ place, EndsAt place (tree.find path) ∧ later = tree.setEntry place (.file bytes) := by
  unfold write at written
  split at written
  · cases written
  · rename_i place found
    rw [found]
    exact ⟨place, .free, (Except.ok.inj written).symm⟩
  · rename_i place old found
    rw [found]
    exact ⟨place, .file old, (Except.ok.inj written).symm⟩
  · cases written

theorem write_error_of_find_eq {bytes : List UInt8} {fault : Fault}
    (same : other.find path = tree.find path) (failed : tree.write path bytes = .error fault) :
    other.write path bytes = .error fault := by
  unfold FileTree.write at failed ⊢
  rw [same]
  split at failed
  · exact failed
  · cases failed
  · cases failed
  · exact failed

/-- A write along a path that spares the places of a difference fails in both trees with the same
fault, or changes both at one place. -/
theorem DiffersAt.write (differs : tree.DiffersAt places loose other)
    (spared : ∀ place ∈ tree.placesOn path, places place →
      EndsAt place (tree.find path) ∧ loose place) (bytes : List UInt8) :
    (∃ fault, tree.write path bytes = .error fault ∧ other.write path bytes = .error fault) ∨
      ∃ later last, tree.write path bytes = .ok later ∧ other.write path bytes = .ok last ∧
        later.DiffersAt places loose last := by
  rcases endsAlike_find differs spared with same | ⟨place, -, -, ends, endsToo⟩
  · cases written : tree.write path bytes with
    | error fault =>
        exact .inl ⟨fault, rfl, write_error_of_find_eq same written⟩
    | ok later =>
        right
        obtain ⟨place, ends, rfl⟩ := endsAt_of_write written
        have endsToo : EndsAt place (other.find path) := by rwa [same]
        exact ⟨_, _, rfl, write_of_endsAt endsToo bytes,
          differs.setEntry (ne_root_of_endsAt ends) bytes⟩
  · right
    exact ⟨_, _, write_of_endsAt ends bytes, write_of_endsAt endsToo bytes,
      differs.setEntry (ne_root_of_endsAt ends) bytes⟩

end Paths

end FileTree

end LayeredConfig
